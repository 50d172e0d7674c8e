import Nearby.Wire.Offers
import Mathlib.Computability.Language

/-! The patterns behind the hand-written matchers of `validator.rs`, as languages over the
characters of a string. -/

namespace Nearby

open Computability

namespace Validator

def charClass (p : Char → Bool) : Language Char := {text | ∃ c, p c = true ∧ text = [c]}

theorem mem_charClass_mul {p : Char → Bool} {L : Language Char} {text : List Char} :
    text ∈ charClass p * L ↔ ∃ c rest, p c = true ∧ rest ∈ L ∧ text = c :: rest := by
  rw [Language.mem_mul]
  constructor
  · rintro ⟨_, ⟨c, hc, rfl⟩, rest, hrest, rfl⟩
    exact ⟨c, rest, hc, hrest, rfl⟩
  · rintro ⟨c, rest, hc, hrest, rfl⟩
    exact ⟨[c], ⟨c, hc, rfl⟩, rest, hrest, rfl⟩

theorem mem_kstar_charClass {p : Char → Bool} {text : List Char} :
    text ∈ (charClass p)∗ ↔ ∀ c ∈ text, p c = true := by
  constructor
  · rintro ⟨pieces, rfl, hpieces⟩ c hc
    obtain ⟨piece, hmem, hc⟩ := List.mem_flatten.mp hc
    obtain ⟨d, hd, rfl⟩ := hpieces piece hmem
    rw [List.mem_singleton.mp hc]
    exact hd
  · intro h
    refine ⟨text.map fun c => [c], by rw [← List.flatMap_def, List.flatMap_singleton'], ?_⟩
    intro piece hpiece
    obtain ⟨c, hc, rfl⟩ := List.mem_map.mp hpiece
    exact ⟨c, h c hc, rfl⟩

def literal (text : List Char) : Language Char := {text}

theorem mem_literal_mul {word text : List Char} {L : Language Char} :
    text ∈ literal word * L ↔ ∃ rest ∈ L, text = word ++ rest := by
  rw [Language.mem_mul]
  constructor
  · rintro ⟨_, rfl, rest, hrest, rfl⟩
    exact ⟨rest, hrest, rfl⟩
  · rintro ⟨rest, hrest, rfl⟩
    exact ⟨word, rfl, rest, hrest, rfl⟩

/-! ### Addresses -/

def octetPattern : Language Char :=
  {text | (1 ≤ text.length ∧ text.length ≤ 3) ∧ (∀ c ∈ text, c.isDigit = true) ∧
    decimal text ≤ 255}

def ipv4Pattern : Language Char :=
  octetPattern * (literal ['.'] * (octetPattern * (literal ['.'] *
    (octetPattern * (literal ['.'] * octetPattern)))))

theorem mem_octetPattern {text : List Char} : text ∈ octetPattern ↔ ∃ n, Octet text n := by
  constructor
  · rintro ⟨⟨hpos, hlen⟩, hdigits, hle⟩
    exact ⟨_, List.length_pos_iff.mp hpos, hlen, List.all_eq_true.mpr hdigits, rfl, hle⟩
  · rintro ⟨n, hne, hlen, hdigits, rfl, hle⟩
    exact ⟨⟨List.length_pos_iff.mpr hne, hlen⟩, List.all_eq_true.mp hdigits, hle⟩

theorem dot_not_mem_octet {text : List Char} (h : text ∈ octetPattern) : '.' ∉ text := by
  intro hdot
  have := h.2.1 _ hdot
  revert this
  decide

theorem mem_ipv4Pattern {text : List Char} :
    text ∈ ipv4Pattern ↔ ∃ a ∈ octetPattern, ∃ b ∈ octetPattern, ∃ c ∈ octetPattern,
      ∃ d ∈ octetPattern, text = ['.'].intercalate [a, b, c, d] := by
  simp only [ipv4Pattern, Language.mem_mul (l := octetPattern), mem_literal_mul]
  constructor
  · rintro ⟨a, ha, _, ⟨_, ⟨b, hb, _, ⟨_, ⟨c, hc, _, ⟨d, hd, rfl⟩, rfl⟩, rfl⟩, rfl⟩, rfl⟩, rfl⟩
    exact ⟨a, ha, b, hb, c, hc, d, hd, by simp [List.intercalate]⟩
  · rintro ⟨a, ha, b, hb, c, hc, d, hd, rfl⟩
    refine ⟨a, ha, _, ⟨_, ⟨b, hb, _, ⟨_, ⟨c, hc, _, ⟨d, hd, rfl⟩, rfl⟩, rfl⟩, rfl⟩, rfl⟩, ?_⟩
    simp [List.intercalate]

theorem exists_dottedQuad_iff (s : String) :
    (∃ octets, DottedQuad s octets) ↔ s.toList ∈ ipv4Pattern := by
  rw [mem_ipv4Pattern]
  constructor
  · rintro ⟨octets, hlen, hall⟩
    obtain ⟨a, b, c, d, hsplit⟩ := List.length_eq_four.mp (hall.length_eq.trans hlen)
    rw [hsplit] at hall
    rcases hall with _ | ⟨ha, _ | ⟨hb, _ | ⟨hc, _ | ⟨hd, _⟩⟩⟩⟩
    refine ⟨a, mem_octetPattern.mpr ⟨_, ha⟩, b, mem_octetPattern.mpr ⟨_, hb⟩,
      c, mem_octetPattern.mpr ⟨_, hc⟩, d, mem_octetPattern.mpr ⟨_, hd⟩, ?_⟩
    rw [← hsplit, List.intercalate_splitOn]
  · rintro ⟨a, ha, b, hb, c, hc, d, hd, htext⟩
    have hsplit : s.toList.splitOn '.' = [a, b, c, d] := by
      rw [htext]
      refine List.splitOn_intercalate '.' ?_ (by simp)
      simp only [List.mem_cons, List.not_mem_nil, or_false]
      rintro text (rfl | rfl | rfl | rfl)
      · exact dot_not_mem_octet ha
      · exact dot_not_mem_octet hb
      · exact dot_not_mem_octet hc
      · exact dot_not_mem_octet hd
    obtain ⟨na, ha⟩ := mem_octetPattern.mp ha
    obtain ⟨nb, hb⟩ := mem_octetPattern.mp hb
    obtain ⟨nc, hc⟩ := mem_octetPattern.mp hc
    obtain ⟨nd, hd⟩ := mem_octetPattern.mp hd
    refine ⟨[na, nb, nc, nd], rfl, ?_⟩
    rw [hsplit]
    exact .cons ha (.cons hb (.cons hc (.cons hd .nil)))

/-! ### Group names -/

/-- `^DIRECT-[a-zA-Z0-9]{2}.*$`, where `.` is neither a line feed nor a carriage return. -/
def wifiDirectSsidPattern : Language Char :=
  literal "DIRECT-".toList * (charClass Char.isAlphanum * (charClass Char.isAlphanum *
    (charClass fun c => c != '\n' && c != '\r')∗))

theorem directSsid_iff (s : String) : DirectSsid s ↔ s.toList ∈ wifiDirectSsidPattern := by
  have hrest (rest : List Char) : rest ∈ (charClass fun c => c != '\n' && c != '\r')∗ ↔
      '\n' ∉ rest ∧ '\r' ∉ rest := by
    rw [mem_kstar_charClass]
    constructor
    · intro h
      exact ⟨fun hn => by simpa using h _ hn, fun hr => by simpa using h _ hr⟩
    · rintro ⟨hn, hr⟩ c hc
      simp only [Bool.and_eq_true, bne_iff_ne]
      exact ⟨fun h => hn (h ▸ hc), fun h => hr (h ▸ hc)⟩
  simp only [wifiDirectSsidPattern, mem_literal_mul, mem_charClass_mul, hrest]
  constructor
  · rintro ⟨a, b, rest, hs, ha, hb, hn, hr⟩
    exact ⟨_, ⟨a, _, ha, ⟨b, rest, hb, ⟨hn, hr⟩, rfl⟩, rfl⟩, hs⟩
  · rintro ⟨_, ⟨a, _, ha, ⟨b, rest, hb, ⟨hn, hr⟩, rfl⟩, rfl⟩, hs⟩
    exact ⟨a, b, rest, hs, ha, hb, hn, hr⟩

theorem matchers_eq_patterns (s : String) :
    (isValidIpv4 s = true ↔ s.toList ∈ ipv4Pattern) ∧
      (matchesWifiDirectSsid s = true ↔ s.toList ∈ wifiDirectSsidPattern) := by
  constructor
  · rw [isValidIpv4_iff, exists_dottedQuad_iff]
  · rw [matchesWifiDirectSsid_iff, directSsid_iff]

end Validator

end Nearby
