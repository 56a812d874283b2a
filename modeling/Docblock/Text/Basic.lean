namespace Docblock

abbrev Text := List Char

namespace Text

def find? (pattern : Text) : Text → Option Nat
  | [] => if pattern.isEmpty then some 0 else none
  | c :: cs =>
      if pattern.isPrefixOf (c :: cs) then some 0
      else (find? pattern cs).map (· + 1)

def holds (text pattern : Text) : Bool :=
  (find? pattern text).isSome

def cut? (text pattern : Text) : Option (Text × Text) :=
  (find? pattern text).map fun start =>
    (text.take start, text.drop (start + pattern.length))

/-- The part before the first occurrence of a marker; an empty marker occurs nowhere. -/
def upTo (marker text : Text) : Text :=
  if marker.isEmpty then text
  else ((text.cut? marker).map Prod.fst).getD text

/-- The text from a position on; a negative position counts from the end. -/
def dropFrom (text : Text) (position : Int) : Text :=
  if position < 0 then text.drop (text.length - position.natAbs)
  else text.drop position.toNat

def startsWith (text pattern : Text) : Bool :=
  pattern.isPrefixOf text

def endsWith (text pattern : Text) : Bool :=
  pattern.isSuffixOf text

def join (separator : Text) : List Text → Text
  | [] => []
  | [text] => text
  | text :: texts => text ++ separator ++ join separator texts

def split (separator : Char) : Text → List Text
  | [] => [[]]
  | c :: cs =>
      if c = separator then [] :: split separator cs
      else
        match split separator cs with
        | [] => [[c]]
        | piece :: pieces => (c :: piece) :: pieces

def precedes : Text → Text → Bool
  | [], _ => true
  | _ :: _, [] => false
  | a :: as, b :: bs => a.toNat < b.toNat || (a == b && precedes as bs)

def ofNat (n : Nat) : Text :=
  Nat.toDigits 10 n

def ofInt : Int → Text
  | .ofNat n => ofNat n
  | .negSucc n => '-' :: ofNat (n + 1)

def hex (width n : Nat) : Text :=
  let digits := Nat.toDigits 16 n
  List.replicate (width - digits.length) '0' ++ digits

def hexDigit? (c : Char) : Option Nat :=
  if '0' ≤ c && c ≤ '9' then some (c.toNat - '0'.toNat)
  else if 'a' ≤ c && c ≤ 'f' then some (c.toNat - 'a'.toNat + 10)
  else if 'A' ≤ c && c ≤ 'F' then some (c.toNat - 'A'.toNat + 10)
  else none

@[simp] theorem split_nil (separator : Char) : split separator [] = [[]] := rfl

@[simp] theorem join_nil (separator : Text) : join separator [] = [] := rfl

@[simp] theorem join_singleton (separator text : Text) :
    join separator [text] = text := rfl

theorem split_ne_nil (separator : Char) (text : Text) :
    split separator text ≠ [] := by
  cases text with
  | nil => simp
  | cons c cs =>
      rw [split]
      split
      · simp
      · split <;> simp

theorem split_append_cons {separator : Char} {front : Text} (lacks : separator ∉ front)
    (rest : Text) :
    split separator (front ++ separator :: rest) = front :: split separator rest := by
  induction front with
  | nil => simp [split]
  | cons c front ih =>
      obtain ⟨other, later⟩ := not_or.mp (mt List.mem_cons.mpr lacks)
      rw [List.cons_append, split, if_neg (Ne.symm other), ih later]

theorem split_of_not_mem {separator : Char} {text : Text} (lacks : separator ∉ text) :
    split separator text = [text] := by
  induction text with
  | nil => rfl
  | cons c text ih =>
      obtain ⟨other, later⟩ := not_or.mp (mt List.mem_cons.mpr lacks)
      rw [split, if_neg (Ne.symm other), ih later]

/-- Joining at a character that stands in none of the texts is undone by splitting. -/
theorem split_join {separator : Char} {texts : List Text} (filled : texts ≠ [])
    (lacks : ∀ text ∈ texts, separator ∉ text) :
    split separator (join [separator] texts) = texts := by
  induction texts with
  | nil => exact absurd rfl filled
  | cons text texts ih =>
      obtain ⟨first, others⟩ := List.forall_mem_cons.mp lacks
      cases texts with
      | nil => exact split_of_not_mem first
      | cons next more =>
          rw [join, List.append_assoc, List.singleton_append, split_append_cons first,
            ih (by simp) others]
          simp

theorem join_cons_cons (separator : Text) (c : Char) (text : Text) (texts : List Text) :
    join separator ((c :: text) :: texts) = c :: join separator (text :: texts) := by
  cases texts with
  | nil => rfl
  | cons next more => rfl

theorem join_split (separator : Char) (text : Text) :
    join [separator] (split separator text) = text := by
  induction text with
  | nil => rfl
  | cons c text ih =>
      rw [split]
      split
      · rename_i same
        rw [join, ih, same]
        · rfl
        · exact split_ne_nil separator text
      · split
        · rename_i none
          exact absurd none (split_ne_nil separator text)
        · rename_i piece pieces parts
          rw [join_cons_cons, ← parts, ih]

theorem split_inj {separator : Char} {first second : Text} :
    split separator first = split separator second ↔ first = second := by
  constructor
  · intro same
    rw [← join_split separator first, same, join_split]
  · exact congrArg (split separator)

end Text

end Docblock
