import Mathlib.Data.List.Basic
import Playback.Message.Target
import Playback.Proofs.Outcome
import Playback.Proofs.Text.Cut
import Playback.Proofs.Text.LetterCase

/-! # Targets are told apart by their texts -/

namespace Playback

/-! ## Reading a text up to its first character of a kind -/

/-- Two texts that begin with a run of characters satisfying `p`, and go on without one, agree in
the run and in what follows it. -/
theorem append_inj_of_run {p : Char → Bool} {run run' rest rest' : List Char}
    (hrun : ∀ c ∈ run, p c = true) (hrun' : ∀ c ∈ run', p c = true)
    (hrest : ∀ c ∈ rest.head?, p c = false) (hrest' : ∀ c ∈ rest'.head?, p c = false)
    (h : run ++ rest = run' ++ rest') : run = run' ∧ rest = rest' := by
  have none_taken {l : List Char} (hl : ∀ c ∈ l.head?, p c = false) : l.takeWhile p = [] := by
    cases l with
    | nil => rfl
    | cons c l => simp [hl c (by simp)]
  have taken : run = run' := by
    have := congrArg (List.takeWhile p) h
    rwa [List.takeWhile_append_of_pos hrun, List.takeWhile_append_of_pos hrun',
      none_taken hrest, none_taken hrest', List.append_nil, List.append_nil] at this
  subst taken
  exact ⟨rfl, List.append_cancel_left h⟩

/-- A text before the first `sep` is known from the whole. -/
theorem append_cons_inj_of_notMem {sep : Char} {before before' after after' : List Char}
    (h : sep ∉ before) (h' : sep ∉ before')
    (same : before ++ sep :: after = before' ++ sep :: after') :
    before = before' ∧ after = after' := by
  obtain ⟨rfl, hcons⟩ := append_inj_of_run (p := (· != sep))
    (fun c hc => by simpa using fun e : c = sep => h (e ▸ hc))
    (fun c hc => by simpa using fun e : c = sep => h' (e ▸ hc)) (by simp) (by simp) same
  exact ⟨rfl, (List.cons.inj hcons).2⟩

theorem toDigits_ten_inj {m n : Nat} (h : Nat.toDigits 10 m = Nat.toDigits 10 n) : m = n := by
  rw [← Nat.ofDigitChars_ten_toDigits (n := m), h, Nat.ofDigitChars_ten_toDigits]

namespace Target

/-! ## Well-formed targets -/

/-- The hosts of addresses: without slashes and question marks, and with colons inside brackets
only. -/
structure IsHost (cs : List Char) : Prop where
  noSlash : '/' ∉ cs
  noQuestion : '?' ∉ cs
  inBrackets : ∀ before after, cs = before ++ ':' :: after → '[' ∈ before ∧ ']' ∈ after

/-- The paths of addresses: empty or from a slash on, without the mark of a query. -/
structure IsPath (cs : List Char) : Prop where
  head : ∀ c ∈ cs.head?, c = '/'
  noQuery : '?' ∉ cs

/-- The targets whose texts can be taken apart: addresses, and authorities with nothing else. -/
inductive WellFormed : Target → Prop
  | address {scheme host path : String} {port : Option Nat} {query : Option String}
      (noColon : ':' ∉ scheme.toList) (host_isHost : IsHost host.toList)
      (path_isPath : IsPath path.toList) : WellFormed ⟨some scheme, host, port, path, query⟩
  | authority {host : String} {port : Option Nat} (noSlash : '/' ∉ host.toList)
      (noPort : port = none → ':' ∉ host.toList) : WellFormed ⟨none, host, port, "", none⟩

/-! ## The pieces of a text -/

/-- A port as it stands in the text of a target. -/
def portText (port : Option Nat) : List Char :=
  match port with
  | some n => ':' :: Nat.toDigits 10 n
  | none => []

/-- A query as it stands in the text of a target. -/
def queryText (query : Option String) : List Char :=
  match query with
  | some q => '?' :: q.toList
  | none => []

theorem toList_print (t : Target) :
    t.print.toList =
      (match t.scheme with | some s => s.toList ++ [':', '/', '/'] | none => []) ++
        (t.host.toList ++ (portText t.port ++ (t.path.toList ++ queryText t.query))) := by
  obtain ⟨scheme, host, port, path, query⟩ := t
  cases scheme <;> cases port <;> cases query <;>
    simp [print, portText, queryText, String.toList_append]

theorem head?_queryText {query : Option String} {c : Char} (h : c ∈ (queryText query).head?) :
    c = '?' := by
  cases query with
  | none => simp [queryText] at h
  | some q => simpa [queryText] using h.symm

theorem head?_path_query {path : List Char} (hpath : IsPath path) {query : Option String}
    {c : Char} (h : c ∈ (path ++ queryText query).head?) : c = '/' ∨ c = '?' := by
  cases path with
  | nil => exact Or.inr (head?_queryText h)
  | cons d path => exact Or.inl (hpath.head c h)

theorem isDigit_of_mem {n : Nat} {c : Char} (h : c ∈ Nat.toDigits 10 n) : c.isDigit = true :=
  Nat.isDigit_of_mem_toDigits (by decide) (by decide) h

/-! ## Taking texts apart -/

/-- A host does not go on into the port, the path or the query behind it. -/
theorem eq_nil_of_isHost_append {host more rest path : List Char} {port : Option Nat}
    {query : Option String} (isHost : IsHost (host ++ more)) (isPath : IsPath path)
    (same : portText port ++ (path ++ queryText query) = more ++ rest) : more = [] := by
  have noMark {c : Char} (hc : c ∈ more) : ¬(c = '/' ∨ c = '?') := by
    rintro (rfl | rfl)
    · exact isHost.noSlash (List.mem_append_right host hc)
    · exact isHost.noQuestion (List.mem_append_right host hc)
  cases more with
  | nil => rfl
  | cons c more =>
      exfalso
      cases port with
      | none =>
          have first : c ∈ (path ++ queryText query).head? := by
            rw [show path ++ queryText query = c :: more ++ rest from same]
            simp
          exact noMark List.mem_cons_self (head?_path_query isPath first)
      | some n =>
          simp only [portText, List.cons_append, List.cons.injEq] at same
          obtain ⟨rfl, same⟩ := same
          -- The colon stands inside brackets, and the bracket that closes them is no digit.
          have bracket : ']' ∈ more := (isHost.inBrackets host more rfl).2
          have notDigit : ']' ∉ Nat.toDigits 10 n := fun h => by
            simpa using isDigit_of_mem h
          rcases List.append_eq_append_iff.mp same with ⟨beyond, rfl, behind⟩ | ⟨digits, inside, -⟩
          · cases beyond with
            | nil => simp [notDigit] at bracket
            | cons d beyond =>
                have first : d ∈ (path ++ queryText query).head? := by
                  rw [behind]
                  simp
                exact noMark (by simp) (head?_path_query isPath first)
          · exact notDigit (by simp [inside, bracket])

theorem host_inj {host host' path path' : List Char} {port port' : Option Nat}
    {query query' : Option String} (h : IsHost host) (h' : IsHost host') (hpath : IsPath path)
    (hpath' : IsPath path')
    (same : host ++ (portText port ++ (path ++ queryText query)) =
      host' ++ (portText port' ++ (path' ++ queryText query'))) :
    host = host' ∧
      portText port ++ (path ++ queryText query) = portText port' ++ (path' ++ queryText query') := by
  rcases List.append_eq_append_iff.mp same with ⟨more, rfl, rest⟩ | ⟨more, rfl, rest⟩
  · obtain rfl := eq_nil_of_isHost_append h' hpath rest
    exact ⟨(List.append_nil host).symm, rest⟩
  · obtain rfl := eq_nil_of_isHost_append h hpath' rest
    exact ⟨List.append_nil host', rest.symm⟩

theorem port_inj {port port' : Option Nat} {rest rest' : List Char}
    (hrest : ∀ c ∈ rest.head?, c = '/' ∨ c = '?') (hrest' : ∀ c ∈ rest'.head?, c = '/' ∨ c = '?')
    (same : portText port ++ rest = portText port' ++ rest') : port = port' ∧ rest = rest' := by
  have colon_ne {n : Nat} {rest rest' : List Char} (hrest : ∀ c ∈ rest.head?, c = '/' ∨ c = '?') :
      rest ≠ portText (some n) ++ rest' := by
    rintro rfl
    have := hrest ':' (by simp [portText])
    simp at this
  have noDigit {rest : List Char} (hrest : ∀ c ∈ rest.head?, c = '/' ∨ c = '?') :
      ∀ c ∈ rest.head?, c.isDigit = false := by
    intro c hc
    rcases hrest c hc with rfl | rfl <;> rfl
  cases port with
  | none =>
      cases port' with
      | none => exact ⟨rfl, same⟩
      | some n => exact absurd same (colon_ne hrest)
  | some n =>
      cases port' with
      | none => exact absurd same.symm (colon_ne hrest')
      | some m =>
          simp only [portText, List.cons_append, List.cons.injEq, true_and] at same
          obtain ⟨digits, hrest⟩ := append_inj_of_run (fun _ => isDigit_of_mem)
            (fun _ => isDigit_of_mem) (noDigit hrest) (noDigit hrest') same
          exact ⟨congrArg some (toDigits_ten_inj digits), hrest⟩

theorem queryText_inj {query query' : Option String} (h : queryText query = queryText query') :
    query = query' := by
  cases query <;> cases query' <;> simp_all [queryText, String.toList_inj]

theorem path_query_inj {path path' : List Char} {query query' : Option String}
    (h : IsPath path) (h' : IsPath path')
    (same : path ++ queryText query = path' ++ queryText query') :
    path = path' ∧ query = query' := by
  have ends {query : Option String} : ∀ c ∈ (queryText query).head?, (c != '?') = false := by
    intro c hc
    simp [head?_queryText hc]
  obtain ⟨rfl, hquery⟩ := append_inj_of_run (p := (· != '?'))
    (fun c hc => by simpa using fun e : c = '?' => h.noQuery (e ▸ hc))
    (fun c hc => by simpa using fun e : c = '?' => h'.noQuery (e ▸ hc)) ends ends same
  exact ⟨rfl, queryText_inj hquery⟩

/-- An authority ends with its last colon and the port behind it, if it has one. -/
theorem authority_inj {host host' : List Char} {port port' : Option Nat}
    (h : port = none → ':' ∉ host) (h' : port' = none → ':' ∉ host')
    (same : host ++ portText port = host' ++ portText port') : host = host' ∧ port = port' := by
  have noColon {n : Nat} : ':' ∉ (Nat.toDigits 10 n).reverse := by
    intro hc
    exact absurd (isDigit_of_mem (List.mem_reverse.mp hc)) (by decide)
  cases port with
  | none =>
      cases port' with
      | none => exact ⟨by simpa [portText] using same, rfl⟩
      | some m =>
          have : ':' ∈ host := by
            rw [show host = host' ++ portText (some m) by simpa [portText] using same]
            simp [portText]
          exact absurd this (h rfl)
  | some n =>
      cases port' with
      | none =>
          have : ':' ∈ host' := by
            rw [show host' = host ++ portText (some n) by simpa [portText] using same.symm]
            simp [portText]
          exact absurd this (h' rfl)
      | some m =>
          -- Read backwards, the digits of the port end at the first colon.
          have backwards := congrArg List.reverse same
          simp only [portText, List.reverse_append, List.reverse_cons, List.append_assoc,
            List.cons_append, List.nil_append] at backwards
          obtain ⟨digits, hosts⟩ := append_cons_inj_of_notMem noColon noColon backwards
          exact ⟨List.reverse_inj.mp hosts,
            congrArg some (toDigits_ten_inj (List.reverse_inj.mp digits))⟩

theorem slash_notMem_authority {host : List Char} {port : Option Nat} (h : '/' ∉ host) :
    '/' ∉ host ++ portText port := by
  intro hc
  rcases List.mem_append.mp hc with hc | hc
  · exact h hc
  · cases port with
    | none => simp [portText] at hc
    | some n =>
        have : '/' ∈ Nat.toDigits 10 n := by simpa [portText] using hc
        exact absurd (isDigit_of_mem this) (by decide)

theorem WellFormed.print_inj {t u : Target} (ht : t.WellFormed) (hu : u.WellFormed)
    (h : t.print = u.print) : t = u := by
  have same := congrArg String.toList h
  rw [toList_print, toList_print] at same
  cases ht with
  | address noColon isHost isPath =>
      cases hu with
      | address noColon' isHost' isPath' =>
          simp only [List.append_assoc, List.cons_append, List.nil_append] at same
          obtain ⟨hscheme, afterColon⟩ := append_cons_inj_of_notMem noColon noColon' same
          simp only [List.cons.injEq, true_and] at afterColon
          obtain ⟨hhost, afterHost⟩ := host_inj isHost isHost' isPath isPath' afterColon
          obtain ⟨rfl, afterPort⟩ := port_inj
            (fun _ => head?_path_query isPath) (fun _ => head?_path_query isPath') afterHost
          obtain ⟨hpath, rfl⟩ := path_query_inj isPath isPath' afterPort
          obtain rfl := String.toList_inj.mp hscheme
          obtain rfl := String.toList_inj.mp hhost
          obtain rfl := String.toList_inj.mp hpath
          rfl
      | authority noSlash noPort =>
          exfalso
          apply slash_notMem_authority noSlash
          rw [show _ ++ portText _ = _ by simpa [queryText] using same.symm]
          simp
  | authority noSlash noPort =>
      cases hu with
      | address noColon' isHost' isPath' =>
          exfalso
          apply slash_notMem_authority noSlash
          rw [show _ ++ portText _ = _ by simpa [queryText] using same]
          simp
      | authority noSlash' noPort' =>
          obtain ⟨hhost, rfl⟩ := authority_inj noPort noPort' (by simpa [queryText] using same)
          obtain rfl := String.toList_inj.mp hhost
          rfl

/-! ## Targets that were read -/

theorem authority_wellFormed {text : List Char} {t : Target} (noSlash : '/' ∉ text)
    (h : authority text = .ok t) : t.WellFormed := by
  simp only [authority, bind, Except.bind, pure, Except.pure, throw, throwThe,
    MonadExceptOf.throw] at h
  split at h
  case h_1 host port hcut =>
    split at h
    case h_1 => cases h
    case h_2 n hn =>
      split at h
      case isTrue => cases h
      case isFalse =>
        cases h
        exact .authority (Text.notMem_lowerAscii (by decide)
          fun slash => noSlash (Text.mem_of_cutAtLast hcut slash)) (by simp)
  case h_2 hcut =>
    split at h
    case isTrue => cases h
    case isFalse =>
      cases h
      exact .authority (Text.notMem_lowerAscii (by decide) noSlash)
        fun _ => Text.notMem_lowerAscii (by decide) (Text.cutAtLast_eq_none hcut)

end Target

/-! ## Readers of addresses -/

/-- What is documented of an address: its scheme holds no colon, and where a host is named, it is one and
a path follows. -/
structure Url.IsRegular (u : Url) : Prop where
  noColon : ':' ∉ u.scheme.toList
  isHost : ∀ host ∈ u.host, Target.IsHost host.toList
  isPath : u.host.isSome → Target.IsPath u.path.toList

/-- A reader whose addresses are as documented. -/
def UrlReader.IsRegular (urls : UrlReader) : Prop :=
  ∀ raw u, urls raw = .ok u → u.IsRegular

namespace Target

variable {urls : UrlReader} {raw : String} {t : Target}

theorem parse_wellFormed (regular : urls.IsRegular) (h : parse urls raw = .ok t) :
    ∀ port, WellFormed { t with port := port } := by
  unfold parse at h
  split at h
  case h_1 => cases h
  case h_2 u hu =>
    have address := regular raw u hu
    unfold ofUrl? at h
    cases named : u.host with
    | none => simp [named] at h
    | some host =>
        obtain rfl : _ = t := by simpa [named] using h
        exact fun port => .address address.noColon (address.isHost host named)
          (address.isPath (by simp [named]))

theorem resolve_wellFormed (regular : urls.IsRegular) {method : Method}
    (h : resolve urls method raw = .ok t) : t.WellFormed := by
  unfold resolve at h
  split at h
  case isTrue => exact parse_wellFormed regular h t.port
  case isFalse =>
    split at h
    case isTrue =>
      obtain ⟨u, hu, h⟩ := exists_ok_of_bind_eq_ok h
      cases h
      exact parse_wellFormed regular hu _
    case isFalse noSlash =>
      split at h
      case h_1 u hu =>
        cases h
        exact authority_wellFormed (by simpa using noSlash) hu
      case h_2 => cases h

end Target

end Playback
