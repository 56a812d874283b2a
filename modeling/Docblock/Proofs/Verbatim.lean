import Docblock.Proofs.Codec
import Docblock.Proofs.Idempotence

namespace Docblock

/-- A line that opens no block: it does not hold the opening marker, or it holds a line comment. -/
def Markers.Quiet (markers : Markers) (line : Text) : Prop :=
  markers.opening <:+: line → markers.lineComment <:+: line

theorem Markers.quiet_iff {markers : Markers} {line : Text} :
    markers.Quiet line ↔ markers.opens line = false := by
  rw [← Bool.not_eq_true, Markers.opens_iff, not_and, not_not]
  rfl

def Stats.copied (count : Nat) : Stats where
  linesRead := count
  linesWritten := count

theorem Scan.skipped_of_copied (config : Config) {scan : Scan} {front : List Text}
    (pieces : scan.pieces = front.map Piece.copied) : scan.skipped config = 0 := by
  rw [Scan.skipped, pieces]
  clear pieces
  induction front with
  | nil => rfl
  | cons line front induction =>
      rw [List.map_cons, List.foldr_cons, induction]
      rfl

theorem convertLines_quiet (config : Config) (source : Option Path) {lines : List Text}
    (quiet : ∀ line ∈ lines, config.markers.Quiet line) :
    ∃ context, convertLines config source lines = (context, none) ∧
      context.yield.lines = lines ∧ context.stats = .copied lines.length := by
  have plain : ∀ line ∈ lines, config.markers.opens line = false :=
    fun line member => Markers.quiet_iff.mp (quiet line member)
  obtain ⟨pieces, tail⟩ := Markers.scan_quiet_append 1 0 plain []
  rw [List.append_nil, Markers.scan] at pieces tail
  rw [List.append_nil] at pieces
  obtain ⟨written, blocks, fragments⟩ := Scan.of_copied config pieces
  have skipped := Scan.skipped_of_copied config pieces
  refine ⟨(convertLines config source lines).1, Prod.ext rfl ?_, ?_, ?_⟩
  · rw [unclosed_convertLines, Scan.unclosed_of_closed tail]
  · rw [lines_convertLines, written, Scan.tailLines_of_closed tail, List.append_nil]
  · rw [stats_convertLines]
    simp only [written, blocks, fragments, skipped, tail, Scan.tailLines_of_closed tail,
      List.append_nil]
    rfl

namespace Conversion

variable {platform : Platform} {config : Config} {files : FileSystem} {source destination : Path}
  {codec : Codec} {text : Text}

theorem Decoded.unique (decoded : Decoded platform config files source codec text) {other : Codec}
    {otherText : Text} (again : Decoded platform config files source other otherText) :
    other = codec ∧ otherText = text := by
  obtain ⟨named, bytes, read, decode⟩ := decoded
  obtain ⟨namedAgain, bytesAgain, readAgain, decodeAgain⟩ := again
  obtain rfl : other = codec := Except.ok.inj (namedAgain.symm.trans named)
  obtain rfl : bytesAgain = bytes := Except.ok.inj (readAgain.symm.trans read)
  exact ⟨rfl, Except.ok.inj (decodeAgain.symm.trans decode)⟩

theorem convertText_quiet (quiet : ∀ line ∈ text.lines, config.markers.Quiet line)
    {context : Context} {unclosed : Option Unclosed}
    (converted : convertText config none text = (context, unclosed)) :
    context.text = text ∧ context.stats = .copied text.lines.length := by
  obtain ⟨copied, success, lines, stats⟩ := convertLines_quiet config none quiet
  obtain rfl : context = copied := congrArg Prod.fst (converted.symm.trans success)
  refine ⟨?_, stats⟩
  rw [Context.text, lines]
  exact Text.flatten_lines text

/-- A file at the destination with the given bytes, and a report of lines that were only copied. -/
structure Copied (platform : Platform) (source destination : Path) (bytes : Bytes) (count : Nat)
    (before : FileSystem) (outcome : Outcome Report) : Prop where
  success : outcome.result = .ok ⟨source, destination, .copied count⟩
  content : ∃ place, platform.locate before destination = .ok place ∧
    outcome.files.get? place = some (.file bytes) ∧ before.SameExcept place outcome.files

theorem Course.copied {outcome : Outcome Report} {bytes : Bytes}
    (course : Course platform config source destination files outcome)
    (decoded : Decoded platform config files source codec text)
    (encodes : codec.encode text = .ok bytes)
    (quiet : ∀ line ∈ text.lines, config.markers.Quiet line) :
    Copied platform source destination bytes text.lines.length files outcome ∨
      (∃ failure, outcome.result = .error failure) ∧
        (outcome.files = files ∨ Cut platform destination bytes files outcome.files) := by
  -- What is converted is what was read, so that it is encoded as `encodes` says.
  have again : ∀ {other : Codec} {read : Text} {context : Context},
      Decoded platform config files source other read →
      convertText config none read = (context, none) →
      other.encode context.text = .ok bytes ∧ context.stats = .copied text.lines.length := by
    intro other read context again converted
    obtain ⟨rfl, rfl⟩ := decoded.unique again
    obtain ⟨same, stats⟩ := convertText_quiet quiet converted
    rw [same]
    exact ⟨encodes, stats⟩
  cases course with
  | stopped => exact .inr ⟨⟨_, rfl⟩, .inl rfl⟩
  | refused => exact .inr ⟨⟨_, rfl⟩, .inl rfl⟩
  | emptied decoded converted opens refused =>
      cases (again decoded converted).1.symm.trans refused
  | broken decoded converted opens broken =>
      cases (again decoded converted).1.symm.trans broken
  | cut decoded converted opens encoded stopped =>
      obtain rfl := Except.ok.inj ((again decoded converted).1.symm.trans encoded)
      exact .inr ⟨⟨_, rfl⟩, .inr (cut_of_opens opens stopped)⟩
  | @written _ _ _ context place written decoded converted opens encoded =>
      obtain ⟨encodes, stats⟩ := again decoded converted
      obtain rfl := Except.ok.inj (encodes.symm.trans encoded)
      obtain ⟨others, content⟩ := sameExcept_of_opens opens bytes
      refine .inl ⟨?_, place, opens.located, content, others⟩
      rw [stats]

end Conversion

/-- A file none of whose lines opens a block is copied byte for byte, and the report counts its
lines and nothing else. A run that fails on such a file changes nothing, unless the system stops the
write. -/
theorem convertFile_verbatim (platform : Platform) (config : Config) (encoding : Encoding)
    (source destination : Path) (files : FileSystem) (bytes : Bytes) (text : Text)
    (named : platform.codec config.encoding = .ok encoding.codec) (unmarked : encoding.Unmarked)
    (read : platform.read files source = .ok bytes) (decoded : encoding.decode bytes = .ok text)
    (quiet : ∀ line ∈ text.lines, config.markers.Quiet line) :
    let outcome := convertFile platform config source destination files
    (∀ report, outcome.result = .ok report →
      (∃ place, platform.locate files destination = .ok place ∧
        outcome.files.get? place = some (.file bytes) ∧ files.SameExcept place outcome.files) ∧
      report = ⟨source, destination, .copied text.lines.length⟩) ∧
    ∀ failure, outcome.result = .error failure → outcome.files = files ∨
      Conversion.Cut platform destination bytes files outcome.files := by
  intro outcome
  have encodes := Encoding.codec_encode_eq_ok_iff.mpr (Encoding.encode_of_decode unmarked decoded)
  have copied := (Conversion.convertFile_course platform config source destination files).copied
    ⟨named, bytes, read, Encoding.codec_decode_eq_ok_iff.mpr decoded⟩ encodes quiet
  constructor
  · intro report succeeded
    rcases copied with copied | ⟨⟨failure, failed⟩, -⟩
    · refine ⟨copied.content, ?_⟩
      exact Except.ok.inj (succeeded.symm.trans copied.success)
    · cases succeeded.symm.trans failed
  · intro failure failed
    rcases copied with copied | ⟨-, unchanged⟩
    · cases failed.symm.trans copied.success
    · exact unchanged

example :
    [none, some "utf-8".toList, some "ascii".toList, some "latin-1".toList,
      some "utf-16-le".toList].map Encoding.chosen =
    [.ok .utf8, .ok .utf8, .ok .ascii, .ok .latin1, .ok (.utf16Plain .little)] := rfl

/-- A file that starts with a byte order mark, ends its lines in LF, CR LF and CR, holds characters
of two, three and four bytes and an opening marker behind a comment, and has no break at its
end. -/
theorem convertFile_verbatim_mixed :
    let config : Config := { newline := some .crlf, openTail := .flush }
    let source : Path := ⟨.relative, [['a']]⟩
    let destination : Path := ⟨.relative, [['b']]⟩
    let text : Text := "\uFEFFä\n\r\n// \x7b@@ €\r\r😀\n\n\rx".toList
    let bytes := Utf8.encode text
    let files : FileSystem := { entries := [(⟨[['a']]⟩, .file bytes)] }
    let outcome := convertFile .standard config source destination files
    config.Accepted ∧
    (∃ report, outcome.result = .ok report) ∧
    outcome.files.get? ⟨[['b']]⟩ = some (.file bytes) := by
  intro config source destination text bytes files outcome
  have accepted : config.Accepted :=
    ⟨1, .map [(.text "on_unterminated".toList, .text "flush".toList),
      (.text "newline".toList, .text ['\r', '\n'])], rfl⟩
  have quiet : ∀ line ∈ text.lines, config.markers.Quiet line := by
    have plain : ∀ line ∈ text.lines, config.markers.opens line = false := by decide +kernel
    exact fun line member => Markers.quiet_iff.mpr (plain line member)
  have decoded : Encoding.utf8.decode bytes = .ok text := by decide +kernel
  obtain ⟨report, succeeded⟩ : ∃ report, outcome.result = .ok report :=
    ⟨⟨source, destination, .copied 8⟩, rfl⟩
  obtain ⟨⟨place, located, content, -⟩, -⟩ := (convertFile_verbatim .standard config .utf8 source
    destination files bytes text rfl trivial rfl decoded quiet).1 report succeeded
  obtain rfl : ⟨[['b']]⟩ = place := Except.ok.inj located
  exact ⟨accepted, ⟨report, succeeded⟩, content⟩

end Docblock
