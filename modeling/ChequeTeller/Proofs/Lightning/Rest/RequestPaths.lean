import ChequeTeller.Proofs.Lightning.Rest.Traffic
import ChequeTeller.Proofs.Url.Appending

/-!
Where a payment request is sent to be decoded. It stands in the path as one segment below
`v1/payreq`, unless it is dots or holds tabs or line breaks: dots are passed over, and what is left
without tabs and line breaks may be dots again, which lead out of `payreq`. What the node answers is
left apart.
-/

namespace ChequeTeller.Lightning.Rest.Client

open Url (Appended appended IsIntact isDelimiter)

/-- Below the base and `v1/payreq` the URL has just one segment, which stands for the text. -/
structure Carries (base u : Url) (text segment : String) : Prop where
  url : u = { base with path := .rooted (base.stem ++ ["v1", "payreq", segment]) }
  path : u.path.text = (Url.Path.rooted base.stem).text ++ "/v1/payreq/" ++ segment
  whole : ∀ c ∈ segment.toList, isDelimiter base.isSpecial c = false
  decodes : Url.Percent.decodeText segment = Text.utf8 text

section

variable {c : Client} (rooted : c.base.isBase = true)
  (stays : Url.FrontStays (c.base.scheme = "file") c.base.stem)
include rooted stays

theorem url_decodeRequest (p : String) :
    c.url (.decodeRequest p) =
      { c.base with
        path := .rooted
          (c.base.stem ++ "v1" :: (appended p).after c.base.isSpecial "payreq") } := by
  have plain (special : Bool) : ∀ n ∈ ["v1", "payreq"], Url.isPlainSegment special n = true := by
    cases special <;> decide
  have filled : "v1" ≠ "" := by decide
  have notDrive : Url.isDriveLetter "payreq".toList = false := by decide
  have last := Url.appendSegment_append (stays.append filled []) (by simp) notDrive
    c.base.isSpecial p
  rw [List.append_assoc, List.append_assoc] at last
  exact (Url.appendSegments_plain_append rooted stays (plain c.base.isSpecial) [p]).trans
    (congrArg (fun path => { c.base with path := .rooted path }) last)

theorem request_decodeRequest_inj {p q : String} :
    c.request (.decodeRequest p) = c.request (.decodeRequest q) ↔ appended p = appended q := by
  have filled : "payreq" ≠ "" := by decide
  simp only [request, url_decodeRequest rooted stays, Request.mk.injEq, Url.mk.injEq, true_and,
    and_true, Url.Path.rooted.injEq, List.append_cancel_left_eq, List.cons.injEq,
    (Url.after_injective c.base.isSpecial filled).eq_iff]

theorem exists_carries_decodeRequest_iff {p : String} :
    (∃ segment, Carries c.base (c.url (.decodeRequest p)) p segment) ↔ IsIntact p := by
  rw [← Url.appended_eq_segment_toList_iff, url_decodeRequest rooted stays]
  refine ⟨?_, ?_⟩
  · rintro ⟨segment, carries⟩
    have same := carries.url
    simp only [Url.mk.injEq, true_and, and_true, Url.Path.rooted.injEq,
      List.append_cancel_left_eq, List.cons.injEq] at same
    cases stands : appended p with
    | nothing | back => simp [stands, Appended.after] at same
    | segment kept =>
        -- The segment decodes to what was kept of the request, so that is all of it.
        simp only [stands, Appended.after, List.cons.injEq, true_and, and_true] at same
        have decodes := carries.decodes
        rw [← same, Url.Percent.decodeText_encode (Url.inSegmentSet_percent _)] at decodes
        rw [Text.octets_injective decodes]
  · intro stands
    refine ⟨Url.Percent.encode (Url.inSegmentSet c.base.isSpecial) p.toList, ?_⟩
    have names : "/v1/payreq/" = "/" ++ ("v1" ++ ("/" ++ ("payreq" ++ "/"))) := rfl
    rw [stands]
    exact
      { url := rfl
        path := by
          simp only [Url.Path.text, Appended.after, List.map_append, List.map_cons, List.map_nil,
            String.join_append, String.join_cons, String.join_nil, String.append_empty, names,
            String.append_assoc]
        whole := fun _ => Url.isDelimiter_eq_false_of_mem_encode
        decodes := Url.Percent.decodeText_encode (Url.inSegmentSet_percent _) _ }

theorem path_decodeRequest_below_payreq_iff {p : String} :
    (∃ below, (c.url (.decodeRequest p)).path =
      .rooted (c.base.stem ++ "v1" :: "payreq" :: below)) ↔ appended p ≠ .back := by
  simp only [url_decodeRequest rooted stays, Url.Path.rooted.injEq, List.append_cancel_left_eq,
    List.cons.injEq, true_and]
  cases appended p <;> simp [Appended.after]

end

/-- A client of a node whose base URL has a path. -/
def pathClient : Client where
  base := ⟨"http", some ⟨none, .ipv6 ⟨[0, 0, 0, 0, 0, 0, 0, 1], rfl⟩, some 8080⟩,
    .rooted ["lnd", ""], none, none⟩
  macaroon := ⟨[0x02, 0x01, 0x03], by decide⟩
  trust := .anyone

theorem parse_pathClient : Url.parse "http://[::1]:8080/lnd/" = .ok pathClient.base := rfl

/-- A payment request is sent in one GET. The node gets it as it is if and only if it is neither `.`
nor `..` and holds no tab and no line break, and no two such are sent alike. Where any other goes,
and which others are sent alike, is what appending its segment comes to. -/
theorem decodeRequest_carries_iff {σ : Type} {text : String} {base : Url} {macaroon : Macaroon}
    {trust : Trust} {c : Client} (parsed : Url.parse text = .ok base)
    (made : Client.new base macaroon trust = .ok c) (wire : Wire σ) (s : σ) (log : List Request)
    (p : String) :
    let q := c.request (.decodeRequest p)
    (c.node wire.logged (.decodeRequest p) (s, log)).2.2 = log ++ [q] ∧
    q.method = .get ∧ q.body = none ∧
    ((∃ segment, Carries base q.url p segment) ↔ IsIntact p) ∧
    (∀ p', IsIntact p → IsIntact p' → c.request (.decodeRequest p') = q → p' = p) ∧
    q.url = { base with
      path := .rooted (base.stem ++ "v1" :: (appended p).after base.isSpecial "payreq") } ∧
    ((∃ below, q.url.path = .rooted (base.stem ++ "v1" :: "payreq" :: below)) ↔
      appended p ≠ .back) ∧
    ∀ p', c.request (.decodeRequest p') = q ↔ appended p' = appended p := by
  obtain rfl := base_of_new made
  have rooted := isBase_of_new made
  have stays := Url.frontStays_stem_of_parse parsed
  refine ⟨rfl, rfl, rfl, exists_carries_decodeRequest_iff rooted stays, ?_,
    url_decodeRequest rooted stays p, path_decodeRequest_below_payreq_iff rooted stays,
    fun _ => request_decodeRequest_inj rooted stays⟩
  intro p' intact intact' same
  have alike := (request_decodeRequest_inj rooted stays).mp same
  rw [Url.appended_eq_segment_toList_iff.mpr intact,
    Url.appended_eq_segment_toList_iff.mpr intact'] at alike
  injection alike with same
  exact String.toList_inj.mp same

theorem decodeRequest_carries_delimiters :
    Url.parse "http://[::1]:8080/lnd/" = .ok pathClient.base ∧
    Client.new pathClient.base pathClient.macaroon pathClient.trust = .ok pathClient ∧
    ∃ segment, Carries pathClient.base (pathClient.url (.decodeRequest "../?#%é")) "../?#%é"
      segment := by
  have made : Client.new pathClient.base pathClient.macaroon pathClient.trust = .ok pathClient :=
    rfl
  obtain ⟨-, -, -, carries, -⟩ := decodeRequest_carries_iff parse_pathClient made
    (fun _ s => (.lost ⟨"", []⟩, s)) () [] "../?#%é"
  exact ⟨parse_pathClient, made, carries.mpr (by decide)⟩

/-- Dots with a tab between them lead out of `payreq`, and a tab makes no difference elsewhere. -/
theorem decodeRequest_dots_leave_payreq :
    Url.parse "http://[::1]:8080/lnd/" = .ok pathClient.base ∧
    (¬ ∃ segment, Carries pathClient.base (pathClient.url (.decodeRequest ".\t.")) ".\t." segment) ∧
    (pathClient.url (.decodeRequest ".\t.")).path.text = "/lnd/v1/" ∧
    (pathClient.url (.decodeRequest "..")).path.text = "/lnd/v1/payreq" ∧
    pathClient.request (.decodeRequest "a\tb") = pathClient.request (.decodeRequest "ab") := by
  have stays := Url.frontStays_stem_of_parse parse_pathClient
  refine ⟨parse_pathClient, ?_, by decide, by decide, ?_⟩
  · rw [exists_carries_decodeRequest_iff rfl stays]
    decide
  · exact (request_decodeRequest_inj rfl stays).mpr (by decide)

end ChequeTeller.Lightning.Rest.Client
