import Playback.Proofs.Bytes.Text
import Playback.Proofs.Message.Target
import Playback.Proofs.Outcome
import Playback.Proofs.Text.Cut
import Playback.Proofs.Text.LetterCase
import Playback.Url.Parser

/-! # Addresses that were read are regular -/

namespace Playback

theorem mem_intercalate {sep : List Char} {parts : List (List Char)} {c : Char}
    (h : c ∈ sep.intercalate parts) : c ∈ sep ∨ ∃ part ∈ parts, c ∈ part := by
  induction parts with
  | nil => simp at h
  | cons part parts ih =>
      by_cases last : parts = []
      · subst last
        exact Or.inr ⟨part, by simp, by simpa using h⟩
      · rw [List.intercalate_cons_of_ne_nil last, List.mem_append, List.mem_append] at h
        rcases h with (h | h) | h
        · exact Or.inr ⟨part, by simp, h⟩
        · exact Or.inl h
        · exact (ih h).imp_right fun ⟨p, hp, hc⟩ => ⟨p, List.mem_cons_of_mem part hp, hc⟩

namespace Url

open Target

/-! ## Notations of numbers -/

theorem mem_toDigits {b n : Nat} (hb : 1 < b) {c : Char} (h : c ∈ Nat.toDigits b n) :
    ∃ d, d < b ∧ c = Nat.digitChar d := by
  induction n using Nat.strongRecOn with
  | ind n ih =>
      rw [Nat.toDigits_eq_if hb] at h
      split at h
      case isTrue small => exact ⟨n, small, by simpa using h⟩
      case isFalse large =>
        rcases List.mem_append.mp h with h | h
        · exact ih (n / b) (Nat.div_lt_self (by omega) hb) h
        · exact ⟨n % b, Nat.mod_lt n (by omega), by simpa using h⟩

theorem notMem_joinPieces {c : Char} (colon : c ≠ ':') (digit : ∀ d, Nat.digitChar d ≠ c)
    (pieces : List Nat) : c ∉ Ipv6.joinPieces pieces := by
  intro h
  rcases mem_intercalate h with h | ⟨digits, hdigits, h⟩
  · simp [colon] at h
  · obtain ⟨n, -, rfl⟩ := List.mem_map.mp hdigits
    obtain ⟨d, -, same⟩ := mem_toDigits (by decide) h
    exact digit d same.symm

theorem notMem_ipv6_print {c : Char} (colon : c ≠ ':') (digit : ∀ d, Nat.digitChar d ≠ c)
    (pieces : List Nat) : c ∉ Ipv6.print pieces := by
  unfold Ipv6.print
  split
  split <;> simp [notMem_joinPieces colon digit, colon]

theorem mem_ipv4_print {address : Nat} {c : Char} (h : c ∈ Ipv4.print address) :
    c.isDigit = true ∨ c = '.' := by
  have digit {n : Nat} (h : c ∈ (toString n).toList) : c.isDigit = true := by
    exact isDigit_of_mem (n := n) (by simpa using h)
  simp only [Ipv4.print, List.mem_append, List.mem_cons] at h
  rcases h with ((h | rfl | h) | rfl | h) | rfl | h
  case inl.inl.inl => exact Or.inl (digit h)
  case inl.inl.inr.inr => exact Or.inl (digit h)
  case inl.inr.inr => exact Or.inl (digit h)
  case inr.inr => exact Or.inl (digit h)
  all_goals exact Or.inr rfl

/-! ## Coded texts -/

theorem mem_code {keep : UInt8 → Bool} {cs : List Char} {c : Char} (h : c ∈ Path.code keep cs) :
    (∃ b ∈ Bytes.ofText (String.ofList cs), keep b = true ∧ c = Char.ofNat b.toNat) ∨
      c = '%' ∨ c.isAlphanum = true := by
  simp only [Path.code, Text.Percent.encode, List.mem_flatMap] at h
  obtain ⟨b, hb, hc⟩ := h
  split at hc
  case isTrue kept => exact Or.inl ⟨b, hb, kept, by simpa using hc⟩
  case isFalse coded =>
    have alphanum {n : Nat} (hn : n < 16) : (Text.Percent.digitChar n).isAlphanum = true := by
      revert n
      decide
    simp only [Text.Percent.encodeByte, List.mem_cons, List.not_mem_nil, or_false] at hc
    have := b.toNat_lt
    rcases hc with rfl | rfl | rfl
    · exact Or.inr (Or.inl rfl)
    · exact Or.inr (Or.inr (alphanum (by omega)))
    · exact Or.inr (Or.inr (alphanum (by omega)))

theorem question_notMem_code (segment : List Char) :
    '?' ∉ Path.code Path.isPathByte segment := by
  intro h
  rcases mem_code h with ⟨b, -, kept, same⟩ | same | same
  · simp [Path.isPathByte, ← same] at kept
  · exact absurd same (by decide)
  · exact absurd same (by decide)

/-- A host that is taken as it stands keeps only characters it had. -/
theorem mem_of_mem_code {cs : List Char} {c : Char}
    (h : c ∈ Path.code (fun b => !Path.isControl b) cs) :
    c ∈ cs ∨ c = '%' ∨ c.isAlphanum = true := by
  rcases mem_code h with ⟨b, hb, kept, rfl⟩ | h
  · have ascii : b < 0x80 := by
      simp only [Path.isControl, Bool.not_eq_true', Bool.or_eq_false_iff, decide_eq_false_iff_not,
        ge_iff_le, UInt8.not_le] at kept
      exact UInt8.lt_trans kept.2 (by decide)
    exact Or.inl (by simpa using Bytes.mem_of_mem_ofText hb ascii)
  · exact Or.inr h

/-! ## Schemes -/

theorem scheme?_noColon {cs rest : List Char} {scheme : String}
    (h : scheme? cs = some (scheme, rest)) : ':' ∉ scheme.toList := by
  unfold scheme? at h
  split at h
  case h_1 => cases h
  case h_2 c cs' =>
    split at h
    case isFalse => cases h
    case isTrue =>
      dsimp only at h
      split at h
      case h_2 => cases h
      case h_1 tail after =>
        obtain ⟨rfl, -⟩ := Prod.mk.inj (Option.some.inj h)
        apply Text.notMem_lowerAscii (by decide)
        intro colon
        exact absurd (List.all_eq_true.mp List.all_takeWhile _ colon) (by decide)

/-! ## Hosts -/

/-- All of a text in brackets stands inside brackets. -/
theorem isHost_of_bracketed {address : List Char} (slash : '/' ∉ address)
    (question : '?' ∉ address) : IsHost ('[' :: address ++ [']']) := by
  refine ⟨by simp [slash], by simp [question], fun before after same => ⟨?_, ?_⟩⟩
  · cases before with
    | nil => simp at same
    | cons c before =>
        obtain ⟨rfl, -⟩ := List.cons.inj same
        exact List.mem_cons_self
  · rcases List.eq_nil_or_concat after with rfl | ⟨after, c, rfl⟩
    · simpa using (List.append_inj' same rfl).2
    · rw [List.concat_eq_append, ← List.cons_append, ← List.append_assoc] at same
      obtain rfl : ']' = c := by simpa using (List.append_inj' same rfl).2
      simp

theorem bracketedHost_isHost {cs host : List Char} (h : bracketedHost cs = .ok host) :
    IsHost host := by
  unfold bracketedHost at h
  split at h
  case isFalse => cases h
  case isTrue =>
    split at h
    case h_2 => cases h
    case h_1 pieces _ =>
      cases h
      exact isHost_of_bracketed
        (notMem_ipv6_print (by decide) (fun _ => Nat.digitChar_ne '/' (by decide)) pieces)
        (notMem_ipv6_print (by decide) (fun _ => Nat.digitChar_ne '?' (by decide)) pieces)

theorem isHost_of_notMem {cs : List Char} (colon : ':' ∉ cs) (slash : '/' ∉ cs)
    (question : '?' ∉ cs) : IsHost cs :=
  ⟨slash, question, fun before after same => absurd (by simp [same]) colon⟩

theorem toAscii_isHost {cs host : List Char} (h : Domain.toAscii cs = some host) :
    IsHost host := by
  simp only [Domain.toAscii, Option.bind_eq_bind, Option.bind_eq_some_iff] at h
  obtain ⟨_, _, _, _, _, _, h⟩ := h
  split at h
  case isTrue => cases h
  case isFalse allowed =>
    cases h
    have notMem {c : Char} (forbidden : Domain.isForbidden c = true) : c ∉ _ := fun hc =>
      allowed (List.any_eq_true.mpr ⟨c, hc, by simp [forbidden]⟩)
    exact isHost_of_notMem (notMem (by decide)) (notMem (by decide)) (notMem (by decide))

theorem ipv4_print_isHost (address : Nat) : IsHost (Ipv4.print address) := by
  have notMem {c : Char} (other : c.isDigit = false ∧ c ≠ '.') : c ∉ Ipv4.print address := by
    intro hc
    rcases mem_ipv4_print hc with digit | stop
    · rw [other.1] at digit
      cases digit
    · exact other.2 stop
  exact isHost_of_notMem (notMem (by decide)) (notMem (by decide)) (notMem (by decide))

theorem webHost_isHost {cs host : List Char} (h : webHost cs = .ok host) : IsHost host := by
  unfold webHost at h
  split at h
  case isTrue => exact bracketedHost_isHost h
  case isFalse =>
    split at h
    case h_1 => cases h
    case h_2 => cases h
    case h_3 name _ found =>
      split at h
      case isTrue =>
        split at h
        case h_1 address _ =>
          cases h
          exact ipv4_print_isHost address
        case h_2 => cases h
      case isFalse =>
        cases h
        exact toAscii_isHost found

theorem opaqueHost_isHost {cs host : List Char} (h : opaqueHost cs = .ok host) :
    IsHost host := by
  unfold opaqueHost at h
  split at h
  case isTrue => exact bracketedHost_isHost h
  case isFalse =>
    split at h
    case isTrue => cases h
    case isFalse allowed =>
      cases h
      have notMem {c : Char} (forbidden : isForbiddenHostChar c = true)
          (other : c ≠ '%' ∧ c.isAlphanum = false) :
          c ∉ Path.code (fun b => !Path.isControl b) cs := by
        intro hc
        rcases mem_of_mem_code hc with hc | rfl | alphanum
        · exact allowed (List.any_eq_true.mpr ⟨c, hc, forbidden⟩)
        · exact other.1 rfl
        · rw [other.2] at alphanum
          cases alphanum
      exact isHost_of_notMem (notMem (by decide) (by decide)) (notMem (by decide) (by decide))
        (notMem (by decide) (by decide))

/-! ## Paths -/

theorem print_isPath {segments : List (List Char)} (h : ∀ segment ∈ segments, '?' ∉ segment) :
    IsPath (Path.print segments) := by
  constructor
  · intro c hc
    cases segments with
    | nil => simp [Path.print] at hc
    | cons segment segments => simpa [Path.print] using hc.symm
  · intro hc
    obtain ⟨segment, hsegment, hc⟩ := List.mem_flatMap.mp hc
    rcases List.mem_cons.mp hc with same | hc
    · exact absurd same (by decide)
    · exact h segment hsegment hc

/-- Resolving adds coded and empty segments only. -/
theorem question_notMem_resolve {fixed : List Char → Bool} {segments : List (List Char)} :
    ∀ {done : List (List Char)}, (∀ segment ∈ done, '?' ∉ segment) →
      ∀ segment ∈ Path.resolve fixed done segments, '?' ∉ segment := by
  induction segments with
  | nil =>
      intro done h segment hsegment
      exact h segment (by simpa [Path.resolve] using hsegment)
  | cons first rest ih =>
      intro done h
      have openLast {done : List (List Char)} (h : ∀ segment ∈ done, '?' ∉ segment) :
          ∀ segment ∈ (if rest.isEmpty then [] :: done else done), '?' ∉ segment := by
        split
        · intro segment hsegment
          rcases List.mem_cons.mp hsegment with rfl | hsegment
          · simp
          · exact h segment hsegment
        · exact h
      unfold Path.resolve
      dsimp only
      split
      · refine ih (openLast ?_)
        cases done with
        | nil => simp
        | cons top below =>
            dsimp only
            split
            · exact h
            · exact fun segment hsegment => h segment (List.mem_cons_of_mem top hsegment)
      · split
        · exact ih (openLast h)
        · refine ih fun segment hsegment => ?_
          rcases List.mem_cons.mp hsegment with rfl | hsegment
          · exact question_notMem_code first
          · exact h segment hsegment

theorem pathOf_isPath (special : Bool) (cs : List Char) : IsPath (pathOf special cs) := by
  unfold pathOf
  dsimp only
  split
  · split
    · exact ⟨by simp, by simp⟩
    · exact ⟨by simp, by simp⟩
  · exact print_isPath (question_notMem_resolve (by simp))

theorem filePath?_isPath {cs path : List Char} (h : filePath? cs = some path) : IsPath path := by
  unfold filePath? at h
  dsimp only at h
  split at h
  case h_2 =>
    cases h
    exact ⟨by simp, by simp⟩
  case h_1 =>
    split at h
    case isTrue => cases h
    case isFalse =>
      have resolved {fixed : List Char → Bool} {segments : List (List Char)} :
          ∀ segment ∈ (if ((Path.resolve fixed [] segments).dropWhile List.isEmpty).isEmpty then [[]]
            else (Path.resolve fixed [] segments).dropWhile List.isEmpty), '?' ∉ segment := by
        split
        · simp
        · intro segment hsegment
          exact question_notMem_resolve (by simp) segment
            ((List.dropWhile_sublist _).subset hsegment)
      cases h
      exact print_isPath resolved

/-! ## Addresses -/

theorem authority_isHost {manner : Manner} {scheme : String} {text after host rest : List Char}
    {port : Option Nat} (h : authority manner scheme text after = .ok (host, port, rest)) :
    IsHost host := by
  simp only [authority, bind, Except.bind, pure, Except.pure, throw, throwThe,
    MonadExceptOf.throw] at h
  grind [opaqueHost_isHost, webHost_isHost]

theorem parseFile_isRegular {cs : List Char} {u : Url} (h : parseFile cs = .ok u) : u.IsRegular := by
  unfold parseFile at h
  split at h
  case h_2 => cases h
  case h_1 a b rest =>
    dsimp only at h
    split at h
    case isFalse => cases h
    case isTrue =>
      split at h
      case isTrue => cases h
      case isFalse =>
        obtain ⟨host, hhost, h⟩ := exists_ok_of_bind_eq_ok h
        split at h
        case isTrue => cases h
        case isFalse =>
          split at h
          case h_1 => cases h
          case h_2 path hpath =>
            cases h
            exact ⟨by simp, by simpa using webHost_isHost hhost,
              fun _ => by simpa using filePath?_isPath hpath⟩

theorem parse_isRegular {raw : String} {u : Url} (h : parse raw = .ok u) : u.IsRegular := by
  unfold parse at h
  split at h
  case h_1 => cases h
  case h_2 scheme rest hscheme =>
    dsimp only at h
    split at h
    case isTrue => exact parseFile_isRegular h
    case isFalse =>
      -- A web address and one with an opaque host differ only in where the authority begins.
      split at h
      case' h_2 =>
        split at h
        case h_2 => cases h
      all_goals
        obtain ⟨afterSlashes, -, h⟩ := exists_ok_of_bind_eq_ok h
        obtain ⟨⟨host, port, afterAuthority⟩, hhost, h⟩ := exists_ok_of_bind_eq_ok h
        dsimp only at h
        split at h
        case isTrue => cases h
        case isFalse =>
          cases h
          exact ⟨scheme?_noColon hscheme, by simpa using authority_isHost hhost,
            fun _ => by simpa using pathOf_isPath _ _⟩

theorem read_isRegular : UrlReader.IsRegular read := by
  intro raw u h
  have parsed : parse raw = .ok u := by
    unfold read at h
    cases found : parse raw <;> simp_all [Except.mapError]
  exact parse_isRegular parsed

end Url

end Playback
