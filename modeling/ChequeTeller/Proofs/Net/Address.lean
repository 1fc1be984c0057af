import ChequeTeller.Net.Address
import ChequeTeller.Proofs.Text.Decimal
import ChequeTeller.Proofs.Text.Split

/-!
What the text of an internet address is made of: digits, dots and colons. Which address a text names
is left apart.
-/

namespace ChequeTeller.Net

/-- A hexadecimal digit, or what separates numbers. -/
def isAddressChar (c : Char) : Bool :=
  (Text.Radix.digit? 16 c).isSome || c = '.' || c = ':'

/-- Nothing but such characters. -/
def IsAddressText (s : List Char) : Prop :=
  ∀ c ∈ s, isAddressChar c = true

theorem exists_of_mapM {α β : Type} {f : α → Option β} {as : List α} {bs : List β}
    (all : as.mapM f = some bs) : ∀ a ∈ as, ∃ b, f a = some b := by
  induction as generalizing bs with
  | nil => nofun
  | cons a as ih =>
      rw [List.mapM_cons] at all
      obtain ⟨b, first, all⟩ := Option.bind_eq_some_iff.mp all
      obtain ⟨bs, others, -⟩ := Option.bind_eq_some_iff.mp all
      exact List.forall_mem_cons.mpr ⟨⟨b, first⟩, ih others⟩

theorem isAddressText_of_number {s : List Char} {n : Nat}
    (number : Text.Radix.number? 16 s = some n) : IsAddressText s := by
  intro c mem
  obtain ⟨values, digits, -⟩ := Option.map_eq_some_iff.mp number
  obtain ⟨v, digit⟩ := exists_of_mapM digits c mem
  simp [isAddressChar, digit]

theorem isAddressText_of_digits {s : List Char} {n : Nat}
    (digits : Text.Decimal.digits? 0 s = some n) : IsAddressText s := by
  intro c mem
  obtain ⟨low, high⟩ :=
    Text.Decimal.isDigit_iff.mp ((Text.Decimal.digits?_eq_some_iff.mp digits).1 c mem)
  have digit : Text.Radix.digit? 16 c = some (c.toNat - 0x30) := by
    simp only [Text.Radix.digit?, if_pos (And.intro low high), Option.filter_some]
    rw [if_pos (by simp; omega)]
  simp [isAddressChar, digit]

variable {s : List Char}

/-- Pieces of such characters make up a text of them. -/
theorem isAddressText_of_split {p : Char → Bool}
    (separators : ∀ c, p c = true → isAddressChar c = true)
    (pieces : ∀ piece ∈ Text.split p s, IsAddressText piece) : IsAddressText s := by
  intro c mem
  obtain separator | ⟨piece, here, mem⟩ := Text.mem_split_of_mem mem
  · exact separators c separator
  · exact pieces piece here c mem

namespace Ipv4

theorem isAddressText_of_octet? {o : UInt8} (octet : octet? s = some o) : IsAddressText s := by
  unfold octet? at octet
  split at octet
  · cases octet
  · cases octet
  · obtain ⟨n, below, -⟩ := Option.map_eq_some_iff.mp octet
    exact isAddressText_of_digits (Option.filter_eq_some_iff.mp below).1

theorem isAddressText_of_ofChars? {a : Ipv4} (read : ofChars? s = some a) : IsAddressText s := by
  obtain ⟨octets, all, -⟩ := Option.bind_eq_some_iff.mp read
  refine isAddressText_of_split (p := (· = '.')) (fun c dot => ?_) fun piece mem => ?_
  · obtain rfl := of_decide_eq_true dot
    rfl
  · obtain ⟨o, octet⟩ := exists_of_mapM all piece mem
    exact isAddressText_of_octet? octet

end Ipv4

namespace Ipv6

theorem isAddressText_of_piece? {n : UInt16} (piece : piece? s = some n) : IsAddressText s := by
  unfold piece? at piece
  split at piece
  · obtain ⟨n, number, -⟩ := Option.map_eq_some_iff.mp piece
    exact isAddressText_of_number number
  · cases piece

theorem isAddressText_of_groups? {dotted : Bool} {gs : List (List Char)} {pieces : List UInt16}
    (read : groups? dotted gs = some pieces) : ∀ g ∈ gs, IsAddressText g := by
  fun_induction groups? dotted gs generalizing pieces with
  | case1 => nofun
  | case2 last =>
      obtain ⟨a, read, -⟩ := Option.map_eq_some_iff.mp read
      exact List.forall_mem_singleton.mpr (Ipv4.isAddressText_of_ofChars? read)
  | case3 last =>
      obtain ⟨n, piece, -⟩ := Option.map_eq_some_iff.mp read
      exact List.forall_mem_singleton.mpr (isAddressText_of_piece? piece)
  | case4 g gs _ ih =>
      obtain ⟨n, piece, read⟩ := Option.bind_eq_some_iff.mp read
      obtain ⟨ns, others, -⟩ := Option.bind_eq_some_iff.mp read
      exact List.forall_mem_cons.mpr ⟨isAddressText_of_piece? piece, ih others⟩

theorem isAddressText_of_split {dotted : Bool} {pieces : List UInt16}
    (read : groups? dotted (Text.split (· = ':') s) = some pieces) : IsAddressText s := by
  refine Net.isAddressText_of_split (p := (· = ':')) (fun c colon => ?_)
    (isAddressText_of_groups? read)
  obtain rfl := of_decide_eq_true colon
  rfl

theorem isAddressText_of_side? {dotted : Bool} {pieces : List UInt16}
    (read : side? dotted s = some pieces) : IsAddressText s := by
  unfold side? at read
  split at read
  · next empty =>
    rw [empty]
    nofun
  · exact isAddressText_of_split read

theorem isAddressText_of_cutGap (before : IsAddressText (cutGap s).1)
    (after : IsAddressText ((cutGap s).2.getD [])) : IsAddressText s := by
  fun_induction cutGap s with
  | case1 => nofun
  | case2 rest => exact List.forall_mem_cons.mpr ⟨rfl, List.forall_mem_cons.mpr ⟨rfl, after⟩⟩
  | case3 c rest _ _ _ cut ih =>
      obtain ⟨here, later⟩ := List.forall_mem_cons.mp before
      rw [cut] at ih
      exact List.forall_mem_cons.mpr ⟨here, ih later after⟩

theorem isAddressText_of_ofChars? {a : Ipv6} (read : ofChars? s = some a) : IsAddressText s := by
  unfold ofChars? at read
  split at read
  · next all cut =>
    obtain ⟨pieces, groups, -⟩ := Option.bind_eq_some_iff.mp read
    refine isAddressText_of_cutGap ?_ ?_ <;> rw [cut]
    · exact isAddressText_of_split groups
    · nofun
  · next before after cut =>
    obtain ⟨front, first, read⟩ := Option.bind_eq_some_iff.mp read
    obtain ⟨back, second, -⟩ := Option.bind_eq_some_iff.mp read
    refine isAddressText_of_cutGap ?_ ?_ <;> rw [cut]
    · exact isAddressText_of_side? first
    · exact isAddressText_of_side? second

end Ipv6

theorem Address.isAddressText_of_ofText? {text : String} {a : Address}
    (read : Address.ofText? text = some a) : IsAddressText text.toList := by
  unfold Address.ofText? at read
  split at read
  · next four => exact Ipv4.isAddressText_of_ofChars? four
  · obtain ⟨six, read, -⟩ := Option.map_eq_some_iff.mp read
    exact Ipv6.isAddressText_of_ofChars? read

end ChequeTeller.Net
