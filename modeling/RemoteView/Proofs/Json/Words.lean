/-
A string or a numeral is read back as it was written. Every escape of a string stands for
the character that it was made of (`scanToken_writeString`). A numeral is taken whole from
the front of a text, as long as what follows cannot be a part of it
(`scanToken_writeNumeral`), and an integer is the value of its own shortest form
(`toInt?_ofInt`).
-/
import RemoteView.Json.Token
import RemoteView.Json.Writer

namespace RemoteView.Json

/-! ## Strings -/

theorem hexUnit?_control : ∀ n < 0x20,
    hexUnit? '0' '0' (Nat.digitChar (n / 16)) (Nat.digitChar (n % 16)) = some n := by decide

theorem ofUnit_control {c : Char} (h : c.toNat < 0x20) : Piece.ofUnit c.toNat = .char c := by
  rw [Piece.ofUnit, if_neg (by omega), Char.ofNat_toNat]

theorem scanString_plain {c : Char} (hquote : c ≠ '"') (hbackslash : c ≠ '\\') (hc : 0x20 ≤ c.toNat)
    (done : List Piece) (rest : List Char) :
    scanString done (c :: rest) = scanString (.char c :: done) rest := by
  rw [scanString]
  · rw [if_neg (by simp [hbackslash]; omega)]
  · exact hquote
  · exact fun _ _ _ _ _ h _ => hbackslash h
  · exact fun _ _ h _ => hbackslash h

theorem scanString_escapeChar (c : Char) (done : List Piece) (rest : List Char) :
    scanString done (escapeChar c ++ rest) = scanString (.char c :: done) rest := by
  unfold escapeChar
  split
  case h_8 hquote hbackslash _ _ _ _ _ =>
    split
    next hcontrol =>
      simp only [List.cons_append, List.nil_append]
      rw [scanString, hexUnit?_control c.toNat hcontrol]
      simp only [ofUnit_control hcontrol]
    next hplain => exact scanString_plain hquote hbackslash (by omega) done rest
  all_goals simp [scanString, escaped?]

theorem scanString_flatMap (s : List Char) (done : List Piece) (rest : List Char) :
    scanString done (s.flatMap escapeChar ++ '"' :: rest) = some (done.reverse ++ s.map .char, rest) := by
  induction s generalizing done with
  | nil => simp [scanString]
  | cons c s ih =>
    rw [List.flatMap_cons, List.append_assoc, scanString_escapeChar, ih]
    simp

theorem join?_chars (s : List Char) : Piece.join? (s.map .char) = some s := by
  induction s with
  | nil => rfl
  | cons c s ih => simp [Piece.join?, ih]

theorem scanToken_writeString (s : String) (rest : List Char) :
    scanToken (writeString s ++ rest) = some (.string (some s), rest) := by
  simp only [writeString, List.cons_append, List.append_assoc]
  rw [scanToken, List.nil_append, scanString_flatMap]
  simp [join?_chars]

/-! ## Numerals -/

/-- Digits as they stand in a numeral. -/
def AreDigits (ds : List Char) : Prop := ds ≠ [] ∧ ∀ c ∈ ds, c.isDigit = true

/-- A numeral as the grammar has it. -/
structure Numeral.Proper (n : Numeral) : Prop where
  whole : AreDigits n.whole
  /-- A zero in front is the only digit before the point. -/
  leading : n.whole.head? = some '0' → n.whole = ['0']
  fraction : n.fraction = [] ∨ AreDigits n.fraction
  exponent : ∀ negative digits, n.exponent = some (negative, digits) → AreDigits digits

/-- Whether the text cannot go on with a numeral that stands before it. -/
def EndsNumeral (rest : List Char) : Prop :=
  ∀ c ∈ rest.head?, c.isDigit = false ∧ c ≠ '.' ∧ c ≠ 'e' ∧ c ≠ 'E'

theorem endsNumeral_nil : EndsNumeral [] := nofun

theorem endsNumeral_cons {c : Char} (h : c = ',' ∨ c = ']' ∨ c = '}') (rest : List Char) :
    EndsNumeral (c :: rest) := by
  intro d hd
  obtain rfl : c = d := by simpa using hd
  rcases h with rfl | rfl | rfl <;> decide

theorem scanDigits_append {ds rest : List Char} (hds : AreDigits ds)
    (hrest : ∀ c ∈ rest.head?, c.isDigit = false) : scanDigits (ds ++ rest) = some (ds, rest) := by
  have htake : rest.takeWhile Char.isDigit = [] := by
    cases rest with
    | nil => rfl
    | cons c rest => simp [hrest c (by simp)]
  have hdrop : rest.dropWhile Char.isDigit = rest := by
    cases rest with
    | nil => rfl
    | cons c rest => simp [hrest c (by simp)]
  have hne := hds.1
  simp [scanDigits, List.takeWhile_append_of_pos hds.2, List.dropWhile_append_of_pos hds.2, htake, hdrop, hne]

theorem scanWhole_append {n : Numeral} (hn : n.Proper) {rest : List Char}
    (hrest : ∀ c ∈ rest.head?, c.isDigit = false) : scanWhole (n.whole ++ rest) = some (n.whole, rest) := by
  by_cases hzero : n.whole.head? = some '0'
  · rw [hn.leading hzero]
    rfl
  · have hdigits := scanDigits_append hn.whole hrest
    unfold scanWhole
    split
    next after heq =>
      cases hwhole : n.whole with
      | nil => exact absurd hwhole hn.whole.1
      | cons c ds =>
        rw [hwhole] at heq hzero
        exact absurd (congrArg List.head? heq) hzero
    next => exact hdigits

/-- The part of a numeral between its whole digits and its exponent, as it is written. -/
def fractionText (fraction : List Char) : List Char := if fraction.isEmpty then [] else '.' :: fraction

theorem scanFraction_append {fraction rest : List Char} (hfraction : fraction = [] ∨ AreDigits fraction)
    (hdigit : ∀ c ∈ rest.head?, c.isDigit = false) (hpoint : ∀ c ∈ rest.head?, c ≠ '.') :
    scanFraction (fractionText fraction ++ rest) = some (fraction, rest) := by
  rcases hfraction with rfl | hds
  · show scanFraction rest = some ([], rest)
    unfold scanFraction
    split
    · exact absurd rfl (hpoint '.' (by simp))
    · rfl
  · have hne := hds.1
    simp only [fractionText, List.isEmpty_iff, hne, if_false, List.cons_append]
    exact scanDigits_append hds hdigit

/-- The part of a numeral after its fraction, as it is written. -/
def exponentText : Option (Bool × List Char) → List Char
  | none => []
  | some (negative, digits) => 'e' :: (if negative then '-' :: digits else digits)

theorem scanExponent_append {exponent : Option (Bool × List Char)} {rest : List Char}
    (hexponent : ∀ negative digits, exponent = some (negative, digits) → AreDigits digits)
    (hrest : EndsNumeral rest) : scanExponent (exponentText exponent ++ rest) = some (exponent, rest) := by
  cases exponent with
  | none =>
    cases rest with
    | nil => rfl
    | cons c rest =>
      obtain ⟨-, -, he, hE⟩ := hrest c (by simp)
      simp [exponentText, scanExponent, he, hE]
  | some exponent =>
    obtain ⟨negative, digits⟩ := exponent
    have hds := hexponent negative digits rfl
    have hscan := scanDigits_append hds fun c hc => (hrest c hc).1
    have hsign (c : Char) (hc : c ∈ digits) : c ≠ '-' ∧ c ≠ '+' := by
      have hdigit := hds.2 c hc
      constructor <;> rintro rfl <;> cases hdigit
    cases negative with
    | true => simp [exponentText, scanExponent, hscan]
    | false =>
      cases digits with
      | nil => exact absurd rfl hds.1
      | cons d ds =>
        obtain ⟨hminus, hplus⟩ := hsign d (by simp)
        simp only [List.cons_append] at hscan
        simp [exponentText, scanExponent, hscan, hminus, hplus]

theorem head?_exponentText (exponent : Option (Bool × List Char)) {rest : List Char} (hrest : EndsNumeral rest) :
    ∀ c ∈ (exponentText exponent ++ rest).head?, c.isDigit = false ∧ c ≠ '.' := by
  cases exponent with
  | none => exact fun c hc => ⟨(hrest c hc).1, (hrest c hc).2.1⟩
  | some e =>
    intro c hc
    obtain rfl : 'e' = c := by simpa [exponentText] using hc
    decide

theorem head?_fraction (fraction : List Char) {rest : List Char} (hrest : ∀ c ∈ rest.head?, c.isDigit = false) :
    ∀ c ∈ (fractionText fraction ++ rest).head?, c.isDigit = false := by
  intro c hc
  unfold fractionText at hc
  split at hc
  · exact hrest c hc
  · obtain rfl : '.' = c := by simpa using hc
    decide

theorem scanUnsigned_append {n : Numeral} (hn : n.Proper) {rest : List Char} (hrest : EndsNumeral rest) :
    scanUnsigned n.negative (n.whole ++ (fractionText n.fraction ++ (exponentText n.exponent ++ rest))) =
      some (n, rest) := by
  have hafter := head?_exponentText n.exponent hrest
  rw [scanUnsigned, scanWhole_append hn (head?_fraction _ fun c hc => (hafter c hc).1)]
  simp only [Option.bind_eq_bind, Option.bind_some]
  rw [scanFraction_append hn.fraction (fun c hc => (hafter c hc).1) (fun c hc => (hafter c hc).2)]
  simp only [Option.bind_some]
  rw [scanExponent_append hn.exponent hrest]
  rfl

theorem scanToken_digit {c : Char} (hc : c.isDigit = true) (rest : List Char) :
    scanToken (c :: rest) = (scanUnsigned false (c :: rest)).map fun (n, rest) => (.number n, rest) := by
  have hne : ∀ d : Char, d.isDigit = false → c ≠ d := fun d hd h => by rw [h, hd] at hc; cases hc
  rw [scanToken]
  all_goals intros
  all_goals simp_all

theorem writeNumeral_append (n : Numeral) (rest : List Char) :
    writeNumeral n ++ rest = (if n.negative then ['-'] else []) ++
      (n.whole ++ (fractionText n.fraction ++ (exponentText n.exponent ++ rest))) := by
  obtain ⟨negative, whole, fraction, exponent⟩ := n
  cases exponent <;> simp only [writeNumeral, fractionText, exponentText, List.append_assoc]

theorem scanToken_writeNumeral {n : Numeral} (hn : n.Proper) {rest : List Char} (hrest : EndsNumeral rest) :
    scanToken (writeNumeral n ++ rest) = some (.number n, rest) := by
  have hscan := scanUnsigned_append hn hrest
  rw [writeNumeral_append]
  cases hsign : n.negative with
  | true =>
    rw [hsign] at hscan
    simp only [if_true, List.cons_append, List.nil_append]
    rw [scanToken, hscan]
    rfl
  | false =>
    rw [hsign] at hscan
    simp only [Bool.false_eq_true, if_false, List.nil_append]
    cases hwhole : n.whole with
    | nil => exact absurd hwhole hn.whole.1
    | cons d ds =>
      rw [hwhole, List.cons_append] at hscan
      rw [List.cons_append, scanToken_digit (hn.whole.2 d (by simp [hwhole])), hscan]
      rfl

/-! ## Integers -/

theorem head?_toDigits {n : Nat} (hn : 0 < n) : (Nat.toDigits 10 n).head? ≠ some '0' := by
  induction n using Nat.strongRecOn with
  | ind n ih =>
    rw [Nat.toDigits_eq_if (by decide)]
    split
    next hlt =>
      have hdigit : ∀ d < 10, 0 < d → Nat.digitChar d ≠ '0' := by decide
      simpa using hdigit n hlt hn
    next hle =>
      have hlead := ih (n / 10) (by omega) (by omega)
      rw [List.head?_append]
      cases hdigits : (Nat.toDigits 10 (n / 10)).head? with
      | none => exact absurd (List.head?_eq_none_iff.mp hdigits) Nat.toDigits_ne_nil
      | some d => simpa [hdigits] using hlead

theorem ofInt_proper (n : Int) : (Numeral.ofInt n).Proper where
  whole := ⟨Nat.toDigits_ne_nil, fun _ hc => Nat.isDigit_of_mem_toDigits (by decide) (by decide) hc⟩
  leading h := by
    by_cases hn : n.natAbs = 0
    · simp [Numeral.ofInt, hn]
    · exact absurd h (head?_toDigits (by omega))
  fraction := .inl rfl
  exponent := nofun

theorem toInt?_ofInt (n : Int) : (Numeral.ofInt n).toInt? = some n := by
  simp only [Numeral.toInt?, Numeral.ofInt, Nat.ofDigitChars_ten_toDigits]
  by_cases hn : n < 0
  · have hne : n.natAbs ≠ 0 := by omega
    have habs : -(n.natAbs : Int) = n := by omega
    simp only [hn, hne, habs, decide_true, decide_false, Option.isSome_none]
    rfl
  · have habs : (n.natAbs : Int) = n := by omega
    simp only [hn, habs, decide_false, Option.isSome_none]
    rfl

end RemoteView.Json
