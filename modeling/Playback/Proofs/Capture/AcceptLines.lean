import Playback.Proofs.Capture.Serving
import Playback.Proofs.Coding.Accepted

/-! # Accepted codings on several lines -/

namespace Playback

open Text

namespace Payload

variable {registry : CodingRegistry} {live whole : Request} {first : String} {others : List String}
  {p : Payload}

/-- The lines on which a client lists the codings it accepts. -/
def acceptLines (live : Request) : List String :=
  live.headers.getAll "accept-encoding"

theorem header?_of_acceptLines (h : acceptLines live = first :: others) :
    live.header? "accept-encoding" = some first := by
  rw [Request.header?, Multimap.first?, show live.headers.getAll "accept-encoding" = _ from h]
  rfl

theorem negotiated_congr (consent : canServe p.codings (live.header? "accept-encoding") =
      canServe p.codings (whole.header? "accept-encoding")) (policy : EncodingPolicy) :
    p.negotiated registry policy live = p.negotiated registry policy whole := by
  rw [negotiated, negotiated, consent]

theorem canServe_eq_of_negotiated (coded : p.codings ≠ [])
    (same : ∀ policy, p.negotiated registry policy live = p.negotiated registry policy whole) :
    canServe p.codings (live.header? "accept-encoding") =
      canServe p.codings (whole.header? "accept-encoding") := by
  -- Under a policy that serves nothing, only what goes out in its codings goes out.
  let nothing : EncodingPolicy := fun _ => .error (.unreadable "")
  have refused : (p.decoded registry >>= nothing) ≠ .ok p := by
    cases p.decoded registry <;> simp [nothing, bind, Except.bind]
  have isEmpty : p.codings.isEmpty = false := by simpa using coded
  have same := same nothing
  simp only [negotiated, isEmpty, Bool.false_eq_true, if_false] at same
  split at same <;> split at same
  · simp [*]
  · exact absurd same.symm refused
  · exact absurd same refused
  · simp [*]

/-- A list of codings whose beginning lets a body pass refuses it exactly if the beginning leaves out
some of its codings and the first later item that names such a coding refuses it. -/
theorem canServe_join_eq_false_iff {codings : List String}
    (passes : canServe codings (some first) = true) :
    canServe codings (some (join "," (first :: others))) = false ↔
      ∃ name ∈ requiredCodings codings, (∀ a ∈ AcceptedCoding.parse first, a.name ≠ name) ∧
        ∃ a, (others.flatMap AcceptedCoding.parse).find? (fun a => a.name == name) = some a ∧
          a.isAcceptable = false := by
  have each : ∀ name ∈ requiredCodings codings,
      AcceptedCoding.accepts (AcceptedCoding.parse first) name = true :=
    List.all_eq_true.mp passes
  have list : AcceptedCoding.parse? (some (join "," (first :: others))) =
      AcceptedCoding.parse first ++ others.flatMap AcceptedCoding.parse := by
    rw [AcceptedCoding.parse?, AcceptedCoding.parse_join_eq_flatMap, List.flatMap_cons]
  rw [canServe, list, List.all_eq_false]
  refine exists_congr fun name => and_congr_right fun required => ?_
  rw [Bool.not_eq_true]
  exact AcceptedCoding.accepts_append_eq_false_iff (each name required)

theorem negotiated_eq_iff :
    (∀ policy, p.negotiated registry policy live = p.negotiated registry policy whole) ↔
      p.codings = [] ∨ canServe p.codings (live.header? "accept-encoding") =
        canServe p.codings (whole.header? "accept-encoding") := by
  constructor
  · intro same
    by_cases uncoded : p.codings = []
    · exact .inl uncoded
    · exact .inr (canServe_eq_of_negotiated uncoded same)
  · rintro (uncoded | consent) policy
    · rw [negotiated, negotiated, uncoded]
      rfl
    · exact negotiated_congr consent policy

theorem codings_eq_of_join {q : Payload}
    (joined : q.headerValues "content-encoding" = [join "," (p.headerValues "content-encoding")]) :
    q.codings = p.codings := by
  rw [codings, codings, listedEncodings, listedEncodings, joined]
  simp [join]

/-- Where a list of codings is divided over lines, what goes out is the same as for the list on one
line exactly if the body has no codings, or if the first line decides like the whole list. Where the
first line lets a body pass in its codings, the whole list refuses it exactly if the first line does
not name some of the codings and the first later item that does refuses it. The lines of a recorded
payload that declare its codings may be joined. -/
theorem negotiated_divided_iff (registry : CodingRegistry) (p : Payload)
    (divided : acceptLines live = first :: others)
    (joined : acceptLines whole = [join "," (first :: others)]) :
    ((∀ policy, p.negotiated registry policy live = p.negotiated registry policy whole) ↔
      p.codings = [] ∨
        canServe p.codings (some first) = canServe p.codings (some (join "," (first :: others)))) ∧
    (canServe p.codings (some first) = true →
      (canServe p.codings (some (join "," (first :: others))) = false ↔
        ∃ name ∈ requiredCodings p.codings, (∀ a ∈ AcceptedCoding.parse first, a.name ≠ name) ∧
          ∃ a, (others.flatMap AcceptedCoding.parse).find? (fun a => a.name == name) = some a ∧
            a.isAcceptable = false)) ∧
    (∀ q : Payload, q.headerValues "content-encoding" = [join "," (p.headerValues "content-encoding")] →
      q.codings = p.codings) := by
  refine ⟨?_, canServe_join_eq_false_iff, fun _ => codings_eq_of_join⟩
  rw [← header?_of_acceptLines divided, ← header?_of_acceptLines joined]
  exact negotiated_eq_iff

end Payload

namespace Exchange

/-- A client that takes every coding on one line, and refuses one on the next line. -/
def refusingLater : Request :=
  (taking "*").withHeader "Accept-Encoding" "compress;q=0"

/-- The later line does not count, so a policy that serves nothing decoded serves the coding. -/
theorem negotiated_divided_iff_refused :
    ∃ p, packed.payload = .ok p ∧ p.codings = ["compress"] ∧
      canServe p.codings (some (join "," ["*", "compress;q=0"])) = false ∧
      ∃ policy, p.negotiated .standard policy refusingLater ≠
        p.negotiated .standard policy (taking "*,compress;q=0") := by
  have coded : packed.payload.toOption.map Payload.codings = some ["compress"] := by decide +kernel
  cases recorded : packed.payload with
  | error fault => simp [recorded, Except.toOption] at coded
  | ok p =>
      have codings : p.codings = ["compress"] := by
        simpa [recorded, Except.toOption] using coded
      obtain ⟨same, refused, -⟩ := Payload.negotiated_divided_iff .standard p
        (show Payload.acceptLines refusingLater = ["*", "compress;q=0"] by decide +kernel)
        (show Payload.acceptLines (taking "*,compress;q=0") = [join "," ["*", "compress;q=0"]] by
          decide +kernel)
      rw [codings] at same refused
      have passes : canServe ["compress"] (some "*") = true := by decide +kernel
      have whole := (refused passes).mpr ⟨"compress", by decide +kernel, by decide +kernel,
        ⟨"compress", .zero, true⟩, by decide +kernel, by decide +kernel⟩
      refine ⟨p, rfl, codings, by rwa [codings], ?_⟩
      by_contra alike
      push Not at alike
      rcases same.mp alike with uncoded | consent
      · cases uncoded
      · rw [passes, whole] at consent
        cases consent

/-- Divided over two lines, a list that refuses a coding gets a body in it; on one line it does not. -/
theorem parseResponse_refusingLater :
    Payload.acceptLines refusingLater = ["*", "compress;q=0"] ∧
      Payload.acceptLines (taking "*,compress;q=0") = ["*,compress;q=0"] ∧
      (packed.parseResponse .standard .asIs refusingLater).toOption.map (·.payload.codings) =
        some ["compress"] ∧
      (packed.parseResponse .standard .asIs (taking "*,compress;q=0")).toOption.map
        (·.payload.codings) = some [] := by
  decide +kernel

end Exchange

end Playback
