import ChequeTeller.Text.Split

/-!
Texts taken apart at separators: what the pieces of a split are, and what stands on the two sides
of a cut.
-/

namespace ChequeTeller.Text

variable {p : Char → Bool} {s t : List Char} {c : Char}

theorem split_eq_splitOnP (p : Char → Bool) (s : List Char) : split p s = s.splitOnP p := by
  induction s with
  | nil => rfl
  | cons c cs ih =>
      rw [split, List.splitOnP_cons_eq_if_modifyHead, ih]
      obtain ⟨piece, pieces, pieces_eq⟩ :=
        List.exists_cons_of_ne_nil (List.splitOnP_ne_nil p cs)
      rw [pieces_eq, List.modifyHead_cons]

theorem split_append_cons (separates : p c = true) (s t : List Char) :
    split p (s ++ c :: t) = split p s ++ split p t := by
  simp only [split_eq_splitOnP]
  exact List.splitOnP_append_cons s t separates

theorem split_of_forall (whole : ∀ c ∈ s, p c = false) : split p s = [s] := by
  rw [split_eq_splitOnP]
  exact List.splitOnP_eq_singleton fun c mem => by simp [whole c mem]

/-- What is in a text is in a piece or separates pieces. -/
theorem mem_split_of_mem (mem : c ∈ s) : p c = true ∨ ∃ piece ∈ split p s, c ∈ piece := by
  induction s with
  | nil => cases mem
  | cons d ds ih =>
      obtain ⟨first, rest, pieces⟩ := List.exists_cons_of_ne_nil (split_ne_nil p ds)
      rw [split, pieces]
      rw [pieces] at ih
      dsimp only
      by_cases separates : p d = true
      · rw [if_pos separates]
        obtain rfl | mem := List.mem_cons.mp mem
        · exact .inl separates
        · refine (ih mem).imp_right ?_
          rintro ⟨piece, mem, inside⟩
          exact ⟨piece, List.mem_cons_of_mem _ mem, inside⟩
      · rw [if_neg separates]
        obtain rfl | mem := List.mem_cons.mp mem
        · exact .inr ⟨_, List.mem_cons_self, List.mem_cons_self⟩
        · refine (ih mem).imp_right ?_
          rintro ⟨piece, mem, inside⟩
          obtain rfl | mem := List.mem_cons.mp mem
          · exact ⟨_, List.mem_cons_self, List.mem_cons_of_mem _ inside⟩
          · exact ⟨piece, List.mem_cons_of_mem _ mem, inside⟩

theorem not_of_mem_split {piece : List Char} (mem : piece ∈ split p s) :
    ∀ c ∈ piece, p c = false := by
  induction s generalizing piece with
  | nil =>
      obtain rfl := List.mem_singleton.mp mem
      nofun
  | cons d ds ih =>
      rw [split] at mem
      split at mem
      · next none => exact absurd none (split_ne_nil p ds)
      · next first rest pieces =>
        rw [pieces] at ih
        split at mem
        · obtain rfl | mem := List.mem_cons.mp mem
          · nofun
          · exact ih mem
        · next kept =>
          obtain rfl | mem := List.mem_cons.mp mem
          · exact List.forall_mem_cons.mpr
              ⟨Bool.eq_false_iff.mpr kept, ih List.mem_cons_self⟩
          · exact ih (List.mem_cons_of_mem _ mem)

/-! Cuts. -/

theorem cut_append_cons (before : ∀ c ∈ s, p c = false) (separates : p c = true)
    (t : List Char) : cut p (s ++ c :: t) = (s, some t) := by
  induction s with
  | nil => rw [List.nil_append, cut, if_pos separates]
  | cons d ds ih =>
      obtain ⟨here, later⟩ := List.forall_mem_cons.mp before
      rw [List.cons_append, cut, if_neg (Bool.eq_false_iff.mp here), ih later]

theorem cut_of_forall (whole : ∀ c ∈ s, p c = false) : cut p s = (s, none) := by
  induction s with
  | nil => rfl
  | cons d ds ih =>
      obtain ⟨here, later⟩ := List.forall_mem_cons.mp whole
      rw [cut, if_neg (Bool.eq_false_iff.mp here), ih later]

/-- Either nothing separates, or the first character that does. -/
theorem whole_or_append_cons (p : Char → Bool) (s : List Char) :
    (∀ c ∈ s, p c = false) ∨
      ∃ before c after, s = before ++ c :: after ∧ (∀ d ∈ before, p d = false) ∧ p c = true := by
  induction s with
  | nil => exact .inl nofun
  | cons d ds ih =>
      by_cases separates : p d = true
      · exact .inr ⟨[], d, ds, rfl, nofun, separates⟩
      have here := Bool.eq_false_iff.mpr separates
      obtain whole | ⟨before, c, after, rfl, later, found⟩ := ih
      · exact .inl (List.forall_mem_cons.mpr ⟨here, whole⟩)
      · exact .inr ⟨d :: before, c, after, rfl, List.forall_mem_cons.mpr ⟨here, later⟩, found⟩

/-! Cuts at one character. -/

theorem cut_char_append_cons (front : c ∉ s) (t : List Char) :
    cut (· = c) (s ++ c :: t) = (s, some t) :=
  cut_append_cons (fun _ mem => decide_eq_false (ne_of_mem_of_not_mem mem front)) (by simp) t

theorem cut_char_of_not_mem (absent : c ∉ s) : cut (· = c) s = (s, none) :=
  cut_of_forall fun _ mem => decide_eq_false (ne_of_mem_of_not_mem mem absent)

theorem eq_or_append_cons_char (c : Char) (s : List Char) :
    c ∉ s ∨ ∃ before after, s = before ++ c :: after ∧ c ∉ before := by
  obtain whole | ⟨before, d, after, rfl, front, found⟩ := whole_or_append_cons (· = c) s
  · exact .inl fun mem => by simpa using whole c mem
  · obtain rfl := of_decide_eq_true found
    exact .inr ⟨before, after, rfl, fun mem => by simpa using front d mem⟩

theorem isSome_cut_char_iff : (cut (· = c) s).2.isSome = true ↔ c ∈ s := by
  obtain absent | ⟨before, after, rfl, front⟩ := eq_or_append_cons_char c s
  · simp [cut_char_of_not_mem absent, absent]
  · simp [cut_char_append_cons front]

end ChequeTeller.Text
