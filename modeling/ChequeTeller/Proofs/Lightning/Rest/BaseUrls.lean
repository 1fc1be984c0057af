import ChequeTeller.Proofs.Lightning.Rest.RequestPaths
import ChequeTeller.Proofs.Text.Decimal
import ChequeTeller.Proofs.Text.Hex
import ChequeTeller.Proofs.Url.Bases

/-!
Where calls go, by the text of the base URL. Two URLs are resolved against the base and two append
to its path, and these ways agree unless the text has a query or a fragment, for then the slash put
at the text's end does not end the path, or unless the path is two slashes. Which segments a payment
request leaves in the path is left apart.
-/

namespace ChequeTeller.Lightning.Rest

/-! The slash at the end. -/

theorem readBase_append_slashes (text : String) (n : Nat) :
    readBase (text ++ String.ofList (List.replicate n '/')) = readBase text := by
  have slashes : (List.replicate n '/' ++ text.toList.reverse).dropWhile (· = '/') =
      text.toList.reverse.dropWhile (· = '/') := by
    induction n with
    | zero => rfl
    | succ n ih => simp [List.replicate_succ, ih]
  simp only [readBase, String.toList_append, String.toList_ofList, List.reverse_append,
    List.reverse_replicate, slashes]

theorem parse_of_readBase {text : String} {base : Url} (read : readBase text = .ok base) :
    ∃ closed, Url.parse closed = .ok base ∧ closed.toList.getLast? = some '/' ∧
      ∀ c ≠ '/', c ∈ closed.toList ↔ c ∈ text.toList := by
  rw [readBase, Steps.mapError_eq_ok_iff] at read
  refine ⟨_, read, by simp, ?_⟩
  intro c other
  rw [String.toList_ofList, List.mem_append, List.mem_reverse,
    Url.mem_dropWhile (by simpa using other), List.mem_reverse]
  simp [other]

theorem formText_numeral (n : Nat) :
    Url.formText (Text.Decimal.numeral n) = Text.Decimal.numeral n := by
  have kept : ∀ c ∈ (Text.Decimal.numeral n).toList, Url.formChar c = [c] := by
    intro c mem
    have digit := (Text.Decimal.spells_numeral n).digits c mem
    have alphanum : c.isAlphanum = true := by simp [Char.isAlphanum, digit]
    have notBlank : c ≠ ' ' := by
      rintro rfl
      cases digit
    simp [Url.formChar, notBlank, Url.Percent.encodeChar, alphanum]
  rw [Url.formText, List.flatMap_congr kept, List.flatMap_singleton', String.ofList_toList]

namespace Client

/-! Where calls go. -/

/-- The URL that appended segments make. What follows the base's path stays. -/
def appendedUrl (base : Url) (names : List String) : Url :=
  { base with path := .rooted (base.stem ++ names) }

/-- The URL that a relative path of names makes. What follows the base's path goes. -/
def resolvedUrl (base : Url) (names : List String) : Url :=
  { base with path := .rooted (base.parent ++ names), query := none, fragment := none }

section

variable {c : Client} (rooted : c.base.isBase = true)
include rooted

theorem url_resolved (stays : Url.FrontStays (c.base.scheme = "file") c.base.parent) :
    c.url .nodeInfo = resolvedUrl c.base ["v1", "getinfo"] ∧
    ∀ p, c.url (.sendPayment p) =
      resolvedUrl c.base ["v1", "channels", "transactions"] := by
  have pieces (special : Bool) : Url.segmentsOf special "./v1/getinfo".toList =
      ['.'] :: ["v1".toList, "getinfo".toList] := by
    cases special <;> rfl
  exact ⟨Url.resolve_of_frontStays rooted stays (pieces _) (by decide) (by decide),
    fun _ => Url.resolve_of_frontStays rooted stays (segmentsOf_transactions _) (by decide)
      (by decide)⟩

variable (stays : Url.FrontStays (c.base.scheme = "file") c.base.stem)
include stays

theorem appendSegments_plain {name : String} {names : List String}
    (plain : ∀ n ∈ name :: names, Url.isPlainSegment c.base.isSpecial n = true) :
    c.base.appendSegments (name :: names) = appendedUrl c.base (name :: names) := by
  have stands := Url.appendSegments_plain_append rooted stays plain []
  rwa [List.append_nil] at stands

theorem appendSegments_resolved :
    c.base.appendSegments ["v1", "getinfo"] = appendedUrl c.base ["v1", "getinfo"] ∧
    c.base.appendSegments ["v1", "channels", "transactions"] =
      appendedUrl c.base ["v1", "channels", "transactions"] := by
  have plain (special : Bool) :
      (∀ n ∈ ["v1", "getinfo"], Url.isPlainSegment special n = true) ∧
      ∀ n ∈ ["v1", "channels", "transactions"], Url.isPlainSegment special n = true := by
    cases special <;> decide
  obtain ⟨info, payment⟩ := plain c.base.isSpecial
  exact ⟨appendSegments_plain rooted stays info, appendSegments_plain rooted stays payment⟩

theorem url_queryRoutes (destination : NodeId) (amount : UInt64) :
    c.url (.queryRoutes destination amount) =
      (appendedUrl c.base ["v1", "graph", "routes", destination.toHex, "0"]).appendPair "amt_msat"
        (Text.Decimal.numeral amount.toNat) := by
  have long : 6 < destination.toHex.toList.length := by
    rw [Octets.toHex, Text.Hex.encode, String.toList_ofList, Text.Hex.length_flatMap_encodeByte,
      destination.length_bytes]
    decide
  have digits (special : Bool) : ∀ n < 16,
      Url.inSegmentSet special (Text.Hex.digit n) = false ∧
        Url.isBreak (Text.Hex.digit n) = false := by
    cases special <;> decide
  have plain (special : Bool) : ∀ n ∈ ["v1", "graph", "routes", destination.toHex, "0"],
      Url.isPlainSegment special n = true := by
    have others : ∀ n ∈ ["v1", "graph", "routes", "0"], Url.isPlainSegment special n = true := by
      cases special <;> decide
    have hex : Url.isPlainSegment special destination.toHex = true := by
      refine Url.isPlainSegment_of_long (fun c mem => ?_) long
      obtain ⟨n, small, rfl⟩ := Text.Hex.exists_digit_of_mem_encode mem
      exact digits special n small
    intro n mem
    by_cases same : n = destination.toHex
    · rw [same]
      exact hex
    · exact others n (by simpa [same] using mem)
  rw [url, appendSegments_plain rooted stays (plain _)]

end

/-! Agreement. -/

/-- The resolved URLs are those of the same segments below the base, no URL has another query than
an amount, and all are below the base's own path. -/
structure UrlsAgree (c : Client) : Prop where
  nodeInfo : c.url .nodeInfo = c.base.appendSegments ["v1", "getinfo"]
  sendPayment : ∀ p,
    c.url (.sendPayment p) = c.base.appendSegments ["v1", "channels", "transactions"]
  decodeRequest : ∀ request, (c.url (.decodeRequest request)).query = none
  queryRoutes : ∀ destination amount, (c.url (.queryRoutes destination amount)).query =
    some ("amt_msat=" ++ Text.Decimal.numeral amount.toNat)
  path : ∀ call, ∃ more, (c.url call).path.text = c.base.path.text ++ more

section

variable {c : Client} (rooted : c.base.isBase = true)
  (fromParent : Url.FrontStays (c.base.scheme = "file") c.base.parent)
  (fromStem : Url.FrontStays (c.base.scheme = "file") c.base.stem)
include rooted fromParent fromStem

theorem urls_stay_on_node (call : Call) :
    (c.url call).scheme = c.base.scheme ∧ (c.url call).authority = c.base.authority := by
  cases call with
  | decodeRequest request =>
      rw [url_decodeRequest rooted fromStem]
      exact ⟨rfl, rfl⟩
  | queryRoutes destination amount =>
      rw [url_queryRoutes rooted fromStem]
      exact ⟨rfl, rfl⟩
  | nodeInfo =>
      rw [(url_resolved rooted fromParent).1]
      exact ⟨rfl, rfl⟩
  | sendPayment p =>
      rw [(url_resolved rooted fromParent).2]
      exact ⟨rfl, rfl⟩

theorem base_of_urlsAgree (agree : UrlsAgree c) :
    c.base.query = none ∧ c.base.fragment = none ∧ c.base.parent = c.base.stem := by
  have same := agree.nodeInfo
  rw [(url_resolved rooted fromParent).1, (appendSegments_resolved rooted fromStem).1,
    resolvedUrl, appendedUrl] at same
  simp only [Url.mk.injEq, true_and, Url.Path.rooted.injEq, List.append_cancel_right_eq] at same
  obtain ⟨path, query, fragment⟩ := same
  exact ⟨query.symm, fragment.symm, path⟩

theorem urlsAgree_of_open (isOpen : c.base.path.IsOpen) (other : c.base.path ≠ .rooted ["", ""])
    (noQuery : c.base.query = none) (noFragment : c.base.fragment = none) : UrlsAgree c := by
  have same := (Url.parent_eq_stem_iff isOpen).mpr other
  have bare (names : List String) : resolvedUrl c.base names = appendedUrl c.base names := by
    rw [resolvedUrl, appendedUrl, same, noQuery, noFragment]
  obtain ⟨info, payment⟩ := url_resolved rooted fromParent
  obtain ⟨info', payment'⟩ := appendSegments_resolved rooted fromStem
  rw [bare] at info
  simp only [bare] at payment
  refine
    { nodeInfo := by rw [info, info']
      sendPayment := fun p => by rw [payment p, payment']
      decodeRequest := fun request => by
        rw [url_decodeRequest rooted fromStem]
        exact noQuery
      queryRoutes := fun destination amount => ?_
      path := fun call => ?_ }
  · rw [url_queryRoutes rooted fromStem]
    simp only [Url.appendPair, appendedUrl, noQuery, formText_numeral, String.empty_append]
    rfl
  · have stands := Url.text_append_of_open isOpen other "v1"
    cases call with
    | decodeRequest request =>
        rw [url_decodeRequest rooted fromStem]
        exact stands _
    | queryRoutes destination amount =>
        rw [url_queryRoutes rooted fromStem]
        exact stands _
    | nodeInfo =>
        rw [info]
        exact stands _
    | sendPayment p =>
        rw [payment p]
        exact stands _

end

/-- Every call goes to the base's scheme and authority, and slashes more or less at the end of the
base's text make no difference. The URLs agree and are below the base's own path if and only if the
text has no query and no fragment and the path is not two slashes. What the URLs are otherwise shows
where they part. -/
theorem urlsAgree_iff {text : String} {base : Url} {macaroon : Macaroon} {trust : Trust}
    {c : Client} (read : readBase text = .ok base)
    (made : Client.new base macaroon trust = .ok c) :
    (∀ call, (c.url call).scheme = base.scheme ∧ (c.url call).authority = base.authority) ∧
    (∀ n, readBase (text ++ String.ofList (List.replicate n '/')) = .ok base) ∧
    (UrlsAgree c ↔ '?' ∉ text.toList ∧ '#' ∉ text.toList ∧ base.path ≠ .rooted ["", ""]) ∧
    c.url .nodeInfo = resolvedUrl base ["v1", "getinfo"] ∧
    (∀ p, c.url (.sendPayment p) = resolvedUrl base ["v1", "channels", "transactions"]) ∧
    (∀ request, c.url (.decodeRequest request) =
      appendedUrl base ("v1" :: (Url.appended request).after base.isSpecial "payreq")) ∧
    ∀ destination amount, c.url (.queryRoutes destination amount) =
      (appendedUrl base ["v1", "graph", "routes", destination.toHex, "0"]).appendPair "amt_msat"
        (Text.Decimal.numeral amount.toNat) := by
  obtain ⟨closed, parsed, last, held⟩ := parse_of_readBase read
  obtain rfl := base_of_new made
  have rooted := isBase_of_new made
  have fromParent := Url.frontStays_parent_of_parse parsed
  have fromStem := Url.frontStays_stem_of_parse parsed
  refine ⟨urls_stay_on_node rooted fromParent fromStem,
    fun n => (readBase_append_slashes text n).trans read, ?_, (url_resolved rooted fromParent).1,
    (url_resolved rooted fromParent).2, url_decodeRequest rooted fromStem,
    url_queryRoutes rooted fromStem⟩
  have bare := Url.no_query_no_fragment_iff parsed
  have isOpen (noQuery : '?' ∉ closed.toList) (noFragment : '#' ∉ closed.toList) :=
    Url.path_open_of_parse parsed last noQuery noFragment rooted
  rw [← held '?' (by decide), ← held '#' (by decide)]
  refine ⟨?_, ?_⟩
  · intro agree
    obtain ⟨noQuery, noFragment, same⟩ := base_of_urlsAgree rooted fromParent fromStem agree
    obtain ⟨noMark, noSign⟩ := bare.mp ⟨noQuery, noFragment⟩
    exact ⟨noMark, noSign, (Url.parent_eq_stem_iff (isOpen noMark noSign)).mp same⟩
  · rintro ⟨noMark, noSign, other⟩
    obtain ⟨noQuery, noFragment⟩ := bare.mpr ⟨noMark, noSign⟩
    exact urlsAgree_of_open rooted fromParent fromStem (isOpen noMark noSign) other noQuery
      noFragment

theorem urlsAgree_pathClient :
    readBase "http://[::1]:8080/lnd//" = .ok pathClient.base ∧
    Client.new pathClient.base pathClient.macaroon pathClient.trust = .ok pathClient ∧
    UrlsAgree pathClient := by
  have read : readBase "http://[::1]:8080/lnd//" = .ok pathClient.base := rfl
  have made : Client.new pathClient.base pathClient.macaroon pathClient.trust = .ok pathClient :=
    rfl
  obtain ⟨-, -, agree, -⟩ := urlsAgree_iff read made
  exact ⟨read, made, agree.mpr (by decide)⟩

/-- Clients of a node whose base URL has a query, or a backslash after which a slash is put. -/
def queryClient : Client :=
  { pathClient with
    base := { pathClient.base with path := .rooted ["lnd"], query := some "x=1/" } }

def backslashClient : Client :=
  { pathClient with base := { pathClient.base with path := .rooted ["", ""] } }

/-- With a query the resolved URLs leave the base's path and the others have that query, and below
two slashes the resolved URLs keep one more. -/
theorem urls_of_query_and_backslash_part :
    readBase "http://[::1]:8080/lnd?x=1" = .ok queryClient.base ∧
    Client.new queryClient.base queryClient.macaroon queryClient.trust = .ok queryClient ∧
    (queryClient.url .nodeInfo).path.text = "/v1/getinfo" ∧
    (queryClient.base.appendSegments ["v1", "getinfo"]).path.text = "/lnd/v1/getinfo" ∧
    (queryClient.url (.decodeRequest "lnbc1")).query = some "x=1/" ∧
    ¬ UrlsAgree queryClient ∧
    readBase "http://[::1]:8080\\" = .ok backslashClient.base ∧
    (backslashClient.url .nodeInfo).path.text = "//v1/getinfo" ∧
    (backslashClient.base.appendSegments ["v1", "getinfo"]).path.text = "/v1/getinfo" ∧
    ¬ UrlsAgree backslashClient := by
  have kept : (queryClient.url (.decodeRequest "lnbc1")).query = some "x=1/" := by decide
  have further : (backslashClient.url .nodeInfo).path.text = "//v1/getinfo" := by decide
  have there : (backslashClient.base.appendSegments ["v1", "getinfo"]).path.text =
      "/v1/getinfo" := by decide
  refine ⟨rfl, rfl, by decide, by decide, kept, ?_, rfl, further, there, ?_⟩
  · intro agree
    have none := agree.decodeRequest "lnbc1"
    rw [kept] at none
    cases none
  · intro agree
    rw [agree.nodeInfo, there] at further
    exact absurd further (by decide)

end Client

end ChequeTeller.Lightning.Rest
