import Docblock.Encoding
import Docblock.Proofs.Destination
import Docblock.Proofs.Provenance
import Mathlib.Data.List.TakeWhile

/-!
Reading and writing in one encoding. No two byte sequences are read as the same text: an encoding
that writes no byte order mark writes every text back as the bytes it was read from. What is read
holds only characters that the encoding can write.
-/

namespace Docblock

theorem toNat_ofNat_of_valid {code : Nat} (valid : code.isValidChar) :
    (Char.ofNat code).toNat = code := by
  rw [Char.ofNat, dif_pos valid]
  rfl

theorem toNat_ofNat_byte (byte : UInt8) : (Char.ofNat byte.toNat).toNat = byte.toNat :=
  toNat_ofNat_of_valid (.inl (by have := byte.toNat_lt; omega))

theorem ofNat_eq_of_toNat {byte : UInt8} {code : Nat} (same : byte.toNat = code) :
    UInt8.ofNat code = byte := by
  rw [← same, UInt8.ofNat_toNat]

namespace Utf8

theorem Span.has_iff {span : Span} {byte : UInt8} :
    span.has byte = true ↔ span.low.toNat ≤ byte.toNat ∧ byte.toNat ≤ span.high.toNat := by
  simp [Span.has, UInt8.le_iff_toNat_le]

section Forms

variable {first second third fourth : UInt8}

theorem encodeChar_one (ascii : first.toNat < 0x80) :
    String.utf8EncodeChar (Char.ofNat first.toNat) = [first] := by
  have code : (Char.ofNat first.toNat).val.toNat = first.toNat := toNat_ofNat_byte first
  simp only [String.utf8EncodeChar, code]
  rw [if_pos (by omega), UInt8.ofNat_toNat]

theorem encodeChar_two {value : Nat} (low : 0x80 ≤ value) (high : value < 0x800)
    (firstBits : first.toNat = value / 64 + 0xC0)
    (secondBits : second.toNat = value % 64 + 0x80) :
    String.utf8EncodeChar (Char.ofNat value) = [first, second] := by
  have code : (Char.ofNat value).val.toNat = value := toNat_ofNat_of_valid (.inl (by omega))
  simp only [String.utf8EncodeChar, code]
  have lead : UInt8.ofNat (value / 64 % 32 + 192) = first := ofNat_eq_of_toNat (by omega)
  rw [if_neg (by omega), if_pos (by omega), lead, ofNat_eq_of_toNat secondBits]

theorem encodeChar_three {value : Nat} (low : 0x800 ≤ value) (high : value < 0x10000)
    (character : value < 0xD800 ∨ 0xDFFF < value)
    (firstBits : first.toNat = value / 4096 + 0xE0)
    (secondBits : second.toNat = value / 64 % 64 + 0x80)
    (thirdBits : third.toNat = value % 64 + 0x80) :
    String.utf8EncodeChar (Char.ofNat value) = [first, second, third] := by
  have code : (Char.ofNat value).val.toNat = value := by
    apply toNat_ofNat_of_valid
    rcases character with below | above
    · exact .inl below
    · exact .inr ⟨above, by omega⟩
  simp only [String.utf8EncodeChar, code]
  have lead : UInt8.ofNat (value / 4096 % 16 + 224) = first := ofNat_eq_of_toNat (by omega)
  rw [if_neg (by omega), if_neg (by omega), if_pos (by omega), lead,
    ofNat_eq_of_toNat secondBits, ofNat_eq_of_toNat thirdBits]

theorem encodeChar_four {value : Nat} (low : 0x10000 ≤ value) (high : value < 0x110000)
    (firstBits : first.toNat = value / 262144 + 0xF0)
    (secondBits : second.toNat = value / 4096 % 64 + 0x80)
    (thirdBits : third.toNat = value / 64 % 64 + 0x80)
    (fourthBits : fourth.toNat = value % 64 + 0x80) :
    String.utf8EncodeChar (Char.ofNat value) = [first, second, third, fourth] := by
  have code : (Char.ofNat value).val.toNat = value :=
    toNat_ofNat_of_valid (.inr ⟨by omega, high⟩)
  simp only [String.utf8EncodeChar, code]
  have lead : UInt8.ofNat (value / 262144 % 8 + 240) = first := ofNat_eq_of_toNat (by omega)
  rw [if_neg (by omega), if_neg (by omega), if_neg (by omega), lead,
    ofNat_eq_of_toNat secondBits, ofNat_eq_of_toNat thirdBits, ofNat_eq_of_toNat fourthBits]

end Forms

/-- Bytes that fill the places still due and add their bits to those that are there. -/
inductive Completes : Nat → List Span → Bytes → Nat → Prop
  | done {bits : Nat} : Completes bits [] [] bits
  | next {bits code : Nat} {span : Span} {due : List Span} {byte : UInt8} {bytes : Bytes}
      (within : span.has byte = true)
      (rest : Completes (bits * 64 + (byte.toNat - 0x80)) due bytes code) :
      Completes bits (span :: due) (byte :: bytes) code

theorem Completes.of_next {bits code : Nat} {span : Span} {due : List Span} {bytes : Bytes}
    (completes : Completes bits (span :: due) bytes code) :
    ∃ byte rest, bytes = byte :: rest ∧ span.low.toNat ≤ byte.toNat ∧
      byte.toNat ≤ span.high.toNat ∧
      Completes (bits * 64 + (byte.toNat - 0x80)) due rest code := by
  cases completes with
  | @next _ _ _ _ byte rest within completes =>
      obtain ⟨low, high⟩ := Span.has_iff.mp within
      exact ⟨byte, rest, rfl, low, high, completes⟩

theorem Completes.of_done {bits code : Nat} {bytes : Bytes}
    (completes : Completes bits [] bytes code) :
    bytes = [] ∧ code = bits := by
  cases completes with
  | done => exact ⟨rfl, rfl⟩

theorem Completes.of_anyFollower {bits code : Nat} {due : List Span} {bytes : Bytes}
    (completes : Completes bits (anyFollower :: due) bytes code) :
    ∃ byte rest, bytes = byte :: rest ∧ 0x80 ≤ byte.toNat ∧ byte.toNat ≤ 0xBF ∧
      Completes (bits * 64 + (byte.toNat - 0x80)) due rest code :=
  completes.of_next

theorem Completes.three {first : UInt8} {bits code : Nat} {span : Span} {bytes : Bytes}
    (lead : first.toNat = bits + 0xE0) (below : bits < 0x10)
    (spanned : ∀ second, span.low.toNat ≤ second → second ≤ span.high.toNat →
      0x80 ≤ second ∧ second ≤ 0xBF ∧ 0x20 ≤ bits * 64 + (second - 0x80) ∧
        (bits = 0xD → second < 0xA0))
    (completes : Completes bits [span, anyFollower] bytes code) :
    String.utf8EncodeChar (Char.ofNat code) = first :: bytes := by
  obtain ⟨second, _, rfl, low, high, completes⟩ := completes.of_next
  obtain ⟨third, _, rfl, low', high', completes⟩ := completes.of_anyFollower
  obtain ⟨rfl, value⟩ := completes.of_done
  obtain ⟨follows, follows', longest, character⟩ := spanned second.toNat low high
  apply encodeChar_three
  · omega
  · omega
  · omega
  · omega
  · omega
  · omega

theorem Completes.four {first : UInt8} {bits code : Nat} {span : Span} {bytes : Bytes}
    (lead : first.toNat = bits + 0xF0)
    (spanned : ∀ second, span.low.toNat ≤ second → second ≤ span.high.toNat →
      0x80 ≤ second ∧ second ≤ 0xBF ∧ 0x10 ≤ bits * 64 + (second - 0x80) ∧
        bits * 64 + (second - 0x80) < 0x110)
    (completes : Completes bits [span, anyFollower, anyFollower] bytes code) :
    String.utf8EncodeChar (Char.ofNat code) = first :: bytes := by
  obtain ⟨second, _, rfl, low, high, completes⟩ := completes.of_next
  obtain ⟨third, _, rfl, low', high', completes⟩ := completes.of_anyFollower
  obtain ⟨fourth, _, rfl, low'', high'', completes⟩ := completes.of_anyFollower
  obtain ⟨rfl, value⟩ := completes.of_done
  obtain ⟨follows, follows', longest, character⟩ := spanned second.toNat low high
  apply encodeChar_four
  · omega
  · omega
  · omega
  · omega
  · omega
  · omega

theorem encodeChar_of_completes {byte : UInt8} {bits code : Nat} {due : List Span} {bytes : Bytes}
    (lead : lead? byte = some (bits, due)) (completes : Completes bits due bytes code) :
    String.utf8EncodeChar (Char.ofNat code) = byte :: bytes := by
  revert lead
  fun_cases lead? byte with
  | case1 n ascii =>
      intro lead
      obtain ⟨rfl, rfl⟩ := Prod.mk.inj (Option.some.inj lead)
      obtain ⟨rfl, rfl⟩ := completes.of_done
      exact encodeChar_one ascii
  | case2 => exact fun lead => nomatch lead
  | case3 n low' low high =>
      intro lead
      obtain ⟨rfl, rfl⟩ := Prod.mk.inj (Option.some.inj lead)
      obtain ⟨second, _, rfl, follows, follows', completes⟩ := completes.of_anyFollower
      obtain ⟨rfl, value⟩ := completes.of_done
      apply encodeChar_two
      · omega
      · omega
      · omega
      · omega
  | case4 =>
      intro lead
      obtain ⟨rfl, rfl⟩ := Prod.mk.inj (Option.some.inj lead)
      apply completes.three
      · omega
      · omega
      · intro second low high
        change 0xA0 ≤ second at low
        change second ≤ 0xBF at high
        omega
  | case5 =>
      intro lead
      obtain ⟨rfl, rfl⟩ := Prod.mk.inj (Option.some.inj lead)
      apply completes.three
      · omega
      · omega
      · intro second low high
        change 0x80 ≤ second at low
        change second ≤ 0x9F at high
        omega
  | case6 =>
      intro lead
      obtain ⟨rfl, rfl⟩ := Prod.mk.inj (Option.some.inj lead)
      apply completes.three
      · omega
      · omega
      · intro second low high
        change 0x80 ≤ second at low
        change second ≤ 0xBF at high
        omega
  | case7 =>
      intro lead
      obtain ⟨rfl, rfl⟩ := Prod.mk.inj (Option.some.inj lead)
      apply completes.four
      · omega
      · intro second low high
        change 0x90 ≤ second at low
        change second ≤ 0xBF at high
        omega
  | case8 =>
      intro lead
      obtain ⟨rfl, rfl⟩ := Prod.mk.inj (Option.some.inj lead)
      apply completes.four
      · omega
      · intro second low high
        change 0x80 ≤ second at low
        change second ≤ 0xBF at high
        omega
  | case9 =>
      intro lead
      obtain ⟨rfl, rfl⟩ := Prod.mk.inj (Option.some.inj lead)
      apply completes.four
      · omega
      · intro second low high
        change 0x80 ≤ second at low
        change second ≤ 0x8F at high
        omega
  | case10 => exact fun lead => nomatch lead

/-- The bytes of the character under way: with any bytes that complete it, they are how it is
written. -/
def Begun (prior : Bytes) : Option Started → Prop
  | none => prior = []
  | some started => ∀ bytes code, Completes started.bits started.due bytes code →
      String.utf8EncodeChar (Char.ofNat code) = prior ++ bytes

theorem begun_lead {byte : UInt8} {bits : Nat} {due : List Span}
    (lead : lead? byte = some (bits, due)) : Begun [byte] (some ⟨byte, 1, bits, due⟩) :=
  fun _ _ completes => encodeChar_of_completes lead completes

theorem Begun.next {prior : Bytes} {started : Started} (begun : Begun prior (some started))
    {span : Span} {due : List Span} (places : started.due = span :: due) {byte : UInt8}
    (within : span.has byte = true) (count : Nat) :
    Begun (prior ++ [byte])
      (some ⟨started.lead, count, started.bits * 64 + (byte.toNat - 0x80), due⟩) := by
  intro bytes code completes
  rw [List.append_assoc]
  apply begun
  rw [places]
  exact .next within completes

theorem Begun.encodeChar {prior : Bytes} {started : Started} (begun : Begun prior (some started))
    (complete : started.due = []) : String.utf8EncodeChar (Char.ofNat started.bits) = prior := by
  have written := begun [] started.bits
  rw [complete, List.append_nil] at written
  exact written .done

theorem encode_reverse_cons (c : Char) (done : Text) :
    encode (c :: done).reverse = encode done.reverse ++ String.utf8EncodeChar c := by
  rw [List.reverse_cons, encode_append]
  simp [encode]

theorem encode_of_decodeFrom {start : Nat} {done text : Text} {state : Option Started}
    {prior bytes : Bytes} (begun : Begun prior state)
    (decoded : decodeFrom start done state bytes = .ok text) :
    encode text = encode done.reverse ++ prior ++ bytes := by
  -- What was read so far is the bytes of the finished characters, then those of the one under way.
  fun_induction decodeFrom start done state bytes generalizing prior with
  | case1 start done =>
      rw [← Except.ok.inj decoded, show prior = [] from begun]
      simp
  | case2 => cases decoded
  | case3 => cases decoded
  | case4 start done byte bytes bits lead induction =>
      have written := (begun_lead lead).encodeChar rfl
      rw [induction rfl decoded, encode_reverse_cons, written, show prior = [] from begun]
      simp
  | case5 start done byte bytes bits due _ lead induction =>
      rw [induction (begun_lead lead) decoded, show prior = [] from begun]
      simp
  | case6 => cases decoded
  | case7 start done started byte bytes span due places within bits count complete =>
      rename_i induction
      have written := (begun.next places within count).encodeChar (List.isEmpty_iff.mp complete)
      rw [induction rfl decoded, encode_reverse_cons, written]
      simp
  | case8 start done started byte bytes span due places within bits count _ =>
      rename_i induction
      rw [induction (begun.next places within count) decoded]
      simp
  | case9 => cases decoded

theorem encode_of_decode {bytes : Bytes} {text : Text} (decoded : decode bytes = .ok text) :
    encode text = bytes :=
  encode_of_decodeFrom (show Begun [] none from rfl) decoded

end Utf8

namespace Utf16

variable {order : Order}

theorem bytes_unit (order : Order) (first second : UInt8) :
    order.bytes (order.unit first second) = [first, second] := by
  have firstSmall := first.toNat_lt
  have secondSmall := second.toNat_lt
  cases order with
  | little =>
      have low : UInt8.ofNat ((first.toNat + second.toNat * 256) % 256) = first :=
        ofNat_eq_of_toNat (by omega)
      have high : UInt8.ofNat ((first.toNat + second.toNat * 256) / 256) = second :=
        ofNat_eq_of_toNat (by omega)
      simp only [Order.bytes, Order.unit, low, high]
  | big =>
      have low : UInt8.ofNat ((first.toNat * 256 + second.toNat) % 256) = second :=
        ofNat_eq_of_toNat (by omega)
      have high : UInt8.ofNat ((first.toNat * 256 + second.toNat) / 256) = first :=
        ofNat_eq_of_toNat (by omega)
      simp only [Order.bytes, Order.unit, low, high]

theorem unit_lt (order : Order) (first second : UInt8) : order.unit first second < 0x10000 := by
  have firstSmall := first.toNat_lt
  have secondSmall := second.toNat_lt
  cases order with
  | little =>
      simp only [Order.unit]
      omega
  | big =>
      simp only [Order.unit]
      omega

theorem units_of_single {unit : Nat} (small : unit < 0x10000) (notHigh : ¬Codes.isHigh unit = true)
    (notLow : ¬Codes.isLow unit = true) : units (Char.ofNat unit) = [unit] := by
  simp only [Codes.isHigh, Codes.isLow, Bool.and_eq_true, decide_eq_true_eq] at notHigh notLow
  have code : (Char.ofNat unit).toNat = unit := by
    apply toNat_ofNat_of_valid
    by_cases below : unit < 0xD800
    · exact .inl below
    · exact .inr ⟨by omega, by omega⟩
  rw [units, code, if_pos small]

theorem units_of_pair {high low : Nat} (isHigh : Codes.isHigh high = true)
    (isLow : Codes.isLow low = true) : units (Codes.joinPair high low) = [high, low] := by
  simp only [Codes.isHigh, Codes.isLow, Bool.and_eq_true, decide_eq_true_eq] at isHigh isLow
  have code : (Codes.joinPair high low).toNat =
      0x10000 + (high - 0xD800) * 0x400 + (low - 0xDC00) :=
    toNat_ofNat_of_valid (.inr ⟨by omega, by omega⟩)
  simp only [units, code]
  rw [if_neg (by omega)]
  refine congrArg₂ List.cons ?_ (congrArg₂ List.cons ?_ rfl)
  · omega
  · omega

def Pending (order : Order) (prior : Bytes) : Option Waiting → Prop
  | none => prior = []
  | some waiting => Codes.isHigh waiting.unit = true ∧ order.bytes waiting.unit = prior

theorem encode_reverse_cons (order : Order) (c : Char) (done : Text) :
    encode order (c :: done).reverse =
      encode order done.reverse ++ (units c).flatMap order.bytes := by
  simp [encode]

theorem encode_of_decodeFrom {start : Nat} {done text : Text} {state : Option Waiting}
    {prior bytes : Bytes} (pending : Pending order prior state)
    (decoded : decodeFrom order start done state bytes = .ok text) :
    encode order text = encode order done.reverse ++ prior ++ bytes := by
  -- The invariant is that of UTF-8, with a high surrogate as the character under way.
  fun_induction decodeFrom order start done state bytes generalizing prior with
  | case1 start done =>
      rw [← Except.ok.inj decoded, show prior = [] from pending]
      simp
  | case2 => cases decoded
  | case3 start done first second bytes unit isHigh =>
      rename_i induction
      rw [induction ⟨isHigh, bytes_unit order first second⟩ decoded, show prior = [] from pending]
      simp
  | case4 => cases decoded
  | case5 start done first second bytes unit notHigh notLow =>
      rename_i induction
      have written := units_of_single (unit_lt order first second) notHigh notLow
      rw [induction rfl decoded, encode_reverse_cons, written, show prior = [] from pending]
      simp [bytes_unit]
  | case6 => cases decoded
  | case7 => cases decoded
  | case8 start done waiting first second bytes unit isLow =>
      rename_i induction
      have written := units_of_pair pending.1 isLow
      rw [induction rfl decoded, encode_reverse_cons, written]
      simp [unit, bytes_unit, pending.2]
  | case9 => cases decoded

theorem encode_of_decode {start : Nat} {bytes : Bytes} {text : Text}
    (decoded : decode order start bytes = .ok text) : encode order text = bytes :=
  encode_of_decodeFrom (show Pending order [] none from rfl) decoded

end Utf16

namespace SingleByte

theorem encode_eq_ok_iff {codec : Text} {limit : Nat} {text : Text} {bytes : Bytes} :
    encode codec limit text = .ok bytes ↔
      (∀ c ∈ text, c.toNat < limit) ∧ text.map (fun c => UInt8.ofNat c.toNat) = bytes := by
  have rest : text.drop (text.takeWhile fun c => decide (c.toNat < limit)).length =
      text.dropWhile fun c => decide (c.toNat < limit) := by
    have whole :=
      List.takeWhile_append_dropWhile (p := fun c => decide (c.toNat < limit)) (l := text)
    have cut := congrArg (List.drop (text.takeWhile fun c => decide (c.toNat < limit)).length) whole
    rw [List.drop_left] at cut
    exact cut.symm
  unfold encode
  simp only [rest]
  split
  · rename_i nothing
    have writable : ∀ c ∈ text, c.toNat < limit := by
      simpa using List.dropWhile_eq_nil_iff.mp nothing
    rw [Except.ok.injEq]
    exact (and_iff_right writable).symm
  · rename_i unwritable
    constructor
    · intro encoded
      cases encoded
    · rintro ⟨writable, -⟩
      rw [List.dropWhile_eq_nil_iff.mpr (by simpa using writable)] at unwritable
      cases unwritable

theorem decodeAsciiFrom_eq {position : Nat} {done text : Text} {bytes : Bytes}
    (decoded : decodeAsciiFrom position done bytes = .ok text) :
    text = done.reverse ++ decodeLatin bytes ∧ ∀ byte ∈ bytes, byte.toNat < 128 := by
  fun_induction decodeAsciiFrom position done bytes with
  | case1 position done => simpa [decodeLatin] using (Except.ok.inj decoded).symm
  | case2 position done byte bytes small induction =>
      obtain ⟨whole, others⟩ := induction decoded
      refine ⟨?_, List.forall_mem_cons.mpr ⟨small, others⟩⟩
      simpa [decodeLatin] using whole
  | case3 => cases decoded

theorem map_decodeLatin (bytes : Bytes) :
    (decodeLatin bytes).map (fun c => UInt8.ofNat c.toNat) = bytes := by
  simp [decodeLatin, toNat_ofNat_byte, Function.comp_def]

theorem decodeLatin_lt {limit : Nat} {bytes : Bytes} (small : ∀ byte ∈ bytes, byte.toNat < limit) :
    ∀ c ∈ decodeLatin bytes, c.toNat < limit := by
  intro c member
  obtain ⟨byte, inside, rfl⟩ := List.mem_map.mp member
  rw [toNat_ofNat_byte]
  exact small byte inside

end SingleByte

namespace Encoding

/-- The characters that can be written in an encoding. -/
def Holds (encoding : Encoding) (c : Char) : Prop :=
  match encoding with
  | .ascii => c.toNat < 128
  | .latin1 => c.toNat < 256
  | _ => True

def Unmarked : Encoding → Prop
  | .utf8Marked | .utf16 => False
  | _ => True

variable {encoding : Encoding} {bytes : Bytes} {text : Text}

theorem exists_encode_iff :
    (∃ bytes, encoding.encode text = .ok bytes) ↔ text.Over encoding.Holds := by
  cases encoding with
  | ascii => simp [encode, SingleByte.encode_eq_ok_iff, Text.Over, Holds]
  | latin1 => simp [encode, SingleByte.encode_eq_ok_iff, Text.Over, Holds]
  | utf8 => simp [encode, Text.Over, Holds]
  | utf8Marked => simp [encode, Text.Over, Holds]
  | utf16 => simp [encode, Text.Over, Holds]
  | utf16Plain order => simp [encode, Text.Over, Holds]

theorem over_of_decode (decoded : encoding.decode bytes = .ok text) :
    text.Over encoding.Holds := by
  have whole := ok_of_mapError_eq_ok decoded
  cases encoding with
  | ascii =>
      obtain ⟨rfl, small⟩ := SingleByte.decodeAsciiFrom_eq (ok_of_mapError_eq_ok whole)
      exact SingleByte.decodeLatin_lt small
  | latin1 =>
      rw [← Except.ok.inj whole]
      exact SingleByte.decodeLatin_lt fun byte _ => byte.toNat_lt
  | utf8 => exact fun _ _ => trivial
  | utf8Marked => exact fun _ _ => trivial
  | utf16 => exact fun _ _ => trivial
  | utf16Plain order => exact fun _ _ => trivial

/-- A text is written back as the bytes that it was read from. -/
theorem encode_of_decode (unmarked : encoding.Unmarked)
    (decoded : encoding.decode bytes = .ok text) : encoding.encode text = .ok bytes := by
  have whole := ok_of_mapError_eq_ok decoded
  cases encoding with
  | utf8 => exact congrArg Except.ok (Utf8.encode_of_decode (ok_of_mapError_eq_ok whole))
  | utf16Plain order =>
      exact congrArg Except.ok (Utf16.encode_of_decode (ok_of_mapError_eq_ok whole))
  | ascii =>
      obtain ⟨rfl, small⟩ := SingleByte.decodeAsciiFrom_eq (ok_of_mapError_eq_ok whole)
      exact SingleByte.encode_eq_ok_iff.mpr
        ⟨SingleByte.decodeLatin_lt small, SingleByte.map_decodeLatin bytes⟩
  | latin1 =>
      rw [← Except.ok.inj whole]
      exact SingleByte.encode_eq_ok_iff.mpr
        ⟨SingleByte.decodeLatin_lt fun byte _ => byte.toNat_lt, SingleByte.map_decodeLatin bytes⟩
  | utf8Marked => exact unmarked.elim
  | utf16 => exact unmarked.elim

end Encoding

end Docblock
