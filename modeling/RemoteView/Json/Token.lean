/-
The words of a JSON text: punctuation, literals, numerals and strings, with
blanks left out. Each `scan` function takes one word off the front of a text
and gives the rest, which is shorter; `Token.tokens?` goes on to the end.
-/
import RemoteView.Json.Basic

namespace RemoteView.Json

inductive Token where
  | leftArray
  | rightArray
  | leftObject
  | rightObject
  | comma
  | colon
  | null
  | bool (b : Bool)
  | number (n : Numeral)
  | string (s : Option String)
  deriving DecidableEq

/-! ## Strings -/

/-- A piece of a string: a character, or half of a surrogate pair. -/
inductive Piece where
  | char (c : Char)
  | half (unit : Nat)
  deriving DecidableEq

/-- The piece that a code unit of sixteen bits stands for. -/
def Piece.ofUnit (unit : Nat) : Piece :=
  if 0xD800 ≤ unit ∧ unit < 0xE000 then .half unit else .char (Char.ofNat unit)

/-- The characters of the pieces. A leading half has to be followed by a
trailing one, and the two make one character; any other half makes none. -/
def Piece.join? : List Piece → Option (List Char)
  | [] => some []
  | .char c :: rest => (join? rest).map (c :: ·)
  | .half lead :: .half trail :: rest =>
    if lead < 0xDC00 ∧ 0xDC00 ≤ trail then
      (join? rest).map (Char.ofNat (0x10000 + (lead - 0xD800) * 0x400 + (trail - 0xDC00)) :: ·)
    else none
  | .half _ :: _ => none

/-- The value of a digit in base sixteen, in either case. -/
def hexDigit? (c : Char) : Option Nat :=
  if '0' ≤ c ∧ c ≤ '9' then some (c.toNat - '0'.toNat)
  else if 'a' ≤ c ∧ c ≤ 'f' then some (c.toNat - 'a'.toNat + 10)
  else if 'A' ≤ c ∧ c ≤ 'F' then some (c.toNat - 'A'.toNat + 10)
  else none

/-- The code unit that four digits name. -/
def hexUnit? (a b c d : Char) : Option Nat := do
  return (((← hexDigit? a) * 16 + (← hexDigit? b)) * 16 + (← hexDigit? c)) * 16 + (← hexDigit? d)

/-- The character that a backslash and one more character stand for. -/
def escaped? : Char → Option Char
  | '"' => some '"'
  | '\\' => some '\\'
  | '/' => some '/'
  | 'b' => some '\x08'
  | 'f' => some '\x0c'
  | 'n' => some '\n'
  | 'r' => some '\r'
  | 't' => some '\t'
  | _ => none

/-- Reads a string up to its closing quote. `done` holds the pieces read so far,
the last one first. Controls have to be escaped. -/
def scanString (done : List Piece) : List Char → Option (List Piece × List Char)
  | [] => none
  | '"' :: rest => some (done.reverse, rest)
  | '\\' :: 'u' :: a :: b :: c :: d :: rest =>
    match hexUnit? a b c d with
    | some unit => scanString (Piece.ofUnit unit :: done) rest
    | none => none
  | '\\' :: c :: rest =>
    match escaped? c with
    | some c => scanString (.char c :: done) rest
    | none => none
  | c :: rest => if c.toNat < 0x20 ∨ c = '\\' then none else scanString (.char c :: done) rest

/-! ## Numerals -/

/-- One or more digits. -/
def scanDigits (s : List Char) : Option (List Char × List Char) :=
  let digits := s.takeWhile Char.isDigit
  if digits.isEmpty then none else some (digits, s.dropWhile Char.isDigit)

/-- The digits before the point: a zero by itself, or digits that begin with
another one. -/
def scanWhole : List Char → Option (List Char × List Char)
  | '0' :: rest => some (['0'], rest)
  | s => scanDigits s

/-- The point and the digits after it, if a point follows. -/
def scanFraction : List Char → Option (List Char × List Char)
  | '.' :: rest => scanDigits rest
  | s => some ([], s)

/-- The exponent, if one follows. -/
def scanExponent : List Char → Option (Option (Bool × List Char) × List Char)
  | [] => some (none, [])
  | c :: rest =>
    if c = 'e' ∨ c = 'E' then
      match rest with
      | '-' :: rest => (scanDigits rest).map fun (ds, rest) => (some (true, ds), rest)
      | '+' :: rest => (scanDigits rest).map fun (ds, rest) => (some (false, ds), rest)
      | rest => (scanDigits rest).map fun (ds, rest) => (some (false, ds), rest)
    else some (none, c :: rest)

/-- A numeral whose sign was read already. -/
def scanUnsigned (negative : Bool) (s : List Char) : Option (Numeral × List Char) := do
  let (whole, s) ← scanWhole s
  let (fraction, s) ← scanFraction s
  let (exponent, s) ← scanExponent s
  return ({ negative, whole, fraction, exponent }, s)

/-! ## Words -/

/-- The first word of a text that begins with one. -/
def scanToken : List Char → Option (Token × List Char)
  | '[' :: rest => some (.leftArray, rest)
  | ']' :: rest => some (.rightArray, rest)
  | '{' :: rest => some (.leftObject, rest)
  | '}' :: rest => some (.rightObject, rest)
  | ',' :: rest => some (.comma, rest)
  | ':' :: rest => some (.colon, rest)
  | 'n' :: 'u' :: 'l' :: 'l' :: rest => some (.null, rest)
  | 't' :: 'r' :: 'u' :: 'e' :: rest => some (.bool true, rest)
  | 'f' :: 'a' :: 'l' :: 's' :: 'e' :: rest => some (.bool false, rest)
  | '"' :: rest =>
    (scanString [] rest).map fun (pieces, rest) =>
      (.string ((Piece.join? pieces).map String.ofList), rest)
  | '-' :: rest => (scanUnsigned true rest).map fun (n, rest) => (.number n, rest)
  | s => (scanUnsigned false s).map fun (n, rest) => (.number n, rest)

/-- The four characters that may stand between words. -/
def isBlank (c : Char) : Bool := c = ' ' || c = '\t' || c = '\n' || c = '\r'

/-! ## Each word takes something off the front -/

theorem scanString_length {done s pieces rest} (h : scanString done s = some (pieces, rest)) :
    rest.length < s.length := by
  fun_induction scanString done s with
  | case1 => cases h
  | case2 => cases h; simp
  | case3 _ _ _ _ _ _ _ _ ih => have := ih h; simp only [List.length_cons]; omega
  | case4 => cases h
  | case5 _ _ _ _ _ _ ih => have := ih h; simp only [List.length_cons]; omega
  | case6 => cases h
  | case7 => cases h
  | case8 _ _ _ _ _ _ _ ih => have := ih h; simp only [List.length_cons]; omega

theorem scanDigits_length {s digits rest} (h : scanDigits s = some (digits, rest)) :
    rest.length < s.length := by
  simp only [scanDigits] at h
  split at h
  · cases h
  · next hne =>
    cases h
    have split := congrArg List.length (List.takeWhile_append_dropWhile (p := Char.isDigit) (l := s))
    have pos : 0 < (s.takeWhile Char.isDigit).length :=
      List.length_pos_iff.2 fun he => hne (by simp [he])
    rw [List.length_append] at split
    omega

theorem scanWhole_length {s digits rest} (h : scanWhole s = some (digits, rest)) :
    rest.length < s.length := by
  unfold scanWhole at h
  split at h
  · cases h; simp
  · exact scanDigits_length h

theorem scanFraction_length {s digits rest} (h : scanFraction s = some (digits, rest)) :
    rest.length ≤ s.length := by
  unfold scanFraction at h
  split at h
  · have := scanDigits_length h; simp only [List.length_cons]; omega
  · cases h; exact Nat.le_refl _

theorem scanExponent_length {s e rest} (h : scanExponent s = some (e, rest)) :
    rest.length ≤ s.length := by
  unfold scanExponent at h
  split at h
  · cases h; exact Nat.le_refl _
  · split at h
    · split at h <;>
      · obtain ⟨⟨ds, r⟩, hd, heq⟩ := Option.map_eq_some_iff.1 h
        cases heq
        have := scanDigits_length hd
        simp only [List.length_cons] at this ⊢
        omega
    · cases h; exact Nat.le_refl _

theorem scanUnsigned_length {negative s n rest} (h : scanUnsigned negative s = some (n, rest)) :
    rest.length < s.length := by
  simp only [scanUnsigned, Option.bind_eq_bind, Option.bind_eq_some_iff, Option.pure_def,
    Option.some.injEq, Prod.mk.injEq] at h
  obtain ⟨⟨_, _⟩, hw, ⟨_, _⟩, hf, ⟨_, _⟩, he, _, rfl⟩ := h
  exact Nat.lt_of_le_of_lt (Nat.le_trans (scanExponent_length he) (scanFraction_length hf))
    (scanWhole_length hw)

theorem scanToken_length {s t rest} (h : scanToken s = some (t, rest)) : rest.length < s.length := by
  unfold scanToken at h
  split at h
  case h_10 =>
    obtain ⟨⟨_, _⟩, hs, heq⟩ := Option.map_eq_some_iff.1 h
    cases heq
    have := scanString_length hs
    simp only [List.length_cons]
    omega
  case h_11 =>
    obtain ⟨⟨_, _⟩, hs, heq⟩ := Option.map_eq_some_iff.1 h
    cases heq
    have := scanUnsigned_length hs
    simp only [List.length_cons]
    omega
  case h_12 =>
    obtain ⟨⟨_, _⟩, hs, heq⟩ := Option.map_eq_some_iff.1 h
    cases heq
    exact scanUnsigned_length hs
  all_goals
    cases h
    simp only [List.length_cons]
    omega

/-- The words of a text, if it consists of words and blanks. -/
def tokens? : List Char → Option (List Token)
  | [] => some []
  | c :: rest =>
    if isBlank c then tokens? rest
    else
      match _scanned : scanToken (c :: rest) with
      | none => none
      | some (t, after) => (tokens? after).map (t :: ·)
termination_by s => s.length
decreasing_by
  · simp
  · exact scanToken_length _scanned

end RemoteView.Json
