import Docblock.Proofs.Codec
import Docblock.Proofs.Output

namespace Docblock

namespace Config

def writtenTexts (config : Config) : List Text :=
  config.markers.doc :: config.tags.texts

/-- All that a configuration adds to the characters of its source satisfies a property. -/
structure Adds (config : Config) (p : Char → Prop) : Prop where
  texts : ∀ text ∈ config.writtenTexts, Text.Over p text
  separator : Text.Over p config.lineSeparator
  sign : ∀ c ∈ Fragment.signs, p c

end Config

section Output

variable {config : Config} {p : Char → Prop}

theorem Fragment.over_render {fragment : Fragment} (adds : config.Adds p)
    (drawn : fragment.Over config p) :
    ∀ line ∈ fragment.render config.markers.doc config.lineSeparator, Text.Over p line := by
  obtain ⟨doc, tags⟩ := List.forall_mem_cons.mp adds.texts
  intro line member
  obtain ⟨content, inside, rfl⟩ := List.mem_map.mp member
  simp only [Text.over_append]
  refine ⟨⟨?_, drawn.content tags adds.sign inside⟩, adds.separator⟩
  exact Fragment.over_lead doc (adds.sign _ (by decide))

theorem Piece.over_block (adds : config.Adds p) (width : Int) {lines : List Line}
    (all : ∀ line ∈ lines, Text.Over p line.text) :
    ∀ line ∈ Piece.written config (.block width lines), Text.Over p line := by
  intro line member
  obtain ⟨fragment, emitted, rendered⟩ := List.mem_flatMap.mp member
  rw [Piece.fragments, Section.fragments_readBlock] at emitted
  have bodies : ∀ line ∈ lines, Text.Over p line.body :=
    fun line member => (all line member).subset (Text.stripBreak_subset line.text)
  have drawn := Segment.reading_over (adds.sign _ (by decide)) bodies fragment emitted
  exact Fragment.over_render adds drawn line rendered

theorem Markers.over_scan (adds : config.Adds p) (number width : Int) {lines : List Text}
    (all : ∀ line ∈ lines, Text.Over p line) :
    ∀ line ∈ (config.markers.scan number width lines).written config ++
      (config.markers.scan number width lines).tail.map Line.text, Text.Over p line := by
  fun_induction Markers.scan config.markers number width lines with
  | case1 number width =>
      intro line member
      cases member
  | case2 number width line rest opens unclosed =>
      rw [Line.text_numbered]
      exact all
  | case3 number width line rest opens last found width' induction =>
      have block : ∀ other ∈ Line.numbered number ((line :: rest).take (last + 1)),
          Text.Over p other.text := by
        intro other member
        exact all _ (List.take_subset _ _ (Line.text_mem_of_mem_numbered member))
      have later : ∀ other ∈ rest.drop last, Text.Over p other := by
        intro other member
        exact all other (List.mem_cons_of_mem line (List.drop_subset _ _ member))
      rw [Scan.cons, Scan.written, List.flatMap_cons, List.append_assoc]
      exact List.forall_mem_append.mpr ⟨Piece.over_block adds width' block, induction later⟩
  | case4 number width line rest plain induction =>
      obtain ⟨first, later⟩ := List.forall_mem_cons.mp all
      exact List.forall_mem_cons.mpr ⟨first, induction later⟩

theorem over_convertLines (adds : config.Adds p) (source : Option Path) {lines : List Text}
    (all : ∀ line ∈ lines, Text.Over p line) :
    ∀ line ∈ (convertLines config source lines).1.yield.lines, Text.Over p line := by
  intro line member
  apply Markers.over_scan adds 1 0 all
  rw [lines_convertLines] at member
  rcases List.mem_append.mp member with written | copied
  · exact List.mem_append_left _ written
  · exact List.mem_append_right _ (Scan.tailLines_subset _ _ copied)

end Output

/-- Where a character of an output comes from. -/
inductive Origin (config : Config) (lines : List Text) (c : Char) : Prop
  | source {line : Text} (member : line ∈ lines) (inside : c ∈ line)
  | configured {text : Text} (written : text ∈ config.writtenTexts) (inside : c ∈ text)
  | separator (inside : c ∈ config.lineSeparator)
  | sign (inside : c ∈ Fragment.signs)

theorem adds_origin (config : Config) (lines : List Text) : config.Adds (Origin config lines) where
  texts _ written _ inside := .configured written inside
  separator _ inside := .separator inside
  sign _ inside := .sign inside

theorem origin_convertLines (config : Config) (source : Option Path) (lines : List Text) :
    ∀ line ∈ (convertLines config source lines).1.yield.lines, ∀ c ∈ line, Origin config lines c :=
  over_convertLines (adds_origin config lines) source fun _ member _ inside =>
    .source member inside

def Config.Encodable (config : Config) (encoding : Encoding) : Prop :=
  ∀ text ∈ config.writtenTexts, ∃ bytes, encoding.encode text = .ok bytes

theorem Encoding.holds_of_ascii (encoding : Encoding) {c : Char} (ascii : c.toNat < 128) :
    encoding.Holds c := by
  cases encoding with
  | ascii => exact ascii
  | latin1 => exact Nat.lt_trans ascii (by decide)
  | _ => trivial

theorem Config.Encodable.adds {config : Config} {encoding : Encoding}
    (encodable : config.Encodable encoding) : config.Adds encoding.Holds where
  texts text written := Encoding.exists_encode_iff.mp (encodable text written)
  separator := by
    have ascii : ∀ c ∈ config.lineSeparator, c.toNat < 128 := by
      unfold lineSeparator
      cases config.newline.getD .lf <;> simp [Newline.text]
    exact fun c inside => encoding.holds_of_ascii (ascii c inside)
  sign := by
    have ascii : ∀ c ∈ Fragment.signs, c.toNat < 128 := by simp [Fragment.signs]
    exact fun c inside => encoding.holds_of_ascii (ascii c inside)

namespace Conversion

variable {platform : Platform} {config : Config} {files : FileSystem} {source : Path}
  {encoding : Encoding} {text : Text}

theorem Decoded.encodes (decoded : Decoded platform config files source encoding.codec text)
    (encodable : config.Encodable encoding) {context : Context} {unclosed : Option Unclosed}
    (converted : convertText config none text = (context, unclosed)) :
    ∃ bytes, encoding.encode context.text = .ok bytes := by
  obtain ⟨-, bytes, -, decoded⟩ := decoded
  have readable := Encoding.over_of_decode (Encoding.codec_decode_eq_ok_iff.mp decoded)
  have lines : ∀ line ∈ text.lines, Text.Over encoding.Holds line := by
    intro line member c inside
    apply readable
    rw [← Text.flatten_lines text]
    exact List.mem_flatten_of_mem member inside
  apply Encoding.exists_encode_iff.mpr
  intro c member
  obtain ⟨line, written, inside⟩ := List.mem_flatten.mp member
  obtain rfl : (convertText config none text).1 = context := congrArg Prod.fst converted
  exact over_convertLines encodable.adds none lines line written c inside

theorem openDestination_ne_encode {destination path : Path} {reason : Text} :
    openDestination platform files destination ≠
      .error (.problem (.destination path (.encode reason))) := by
  intro refused
  unfold openDestination at refused
  split at refused
  · cases refused
  · cases refused
  · split at refused
    · cases refused
    · obtain ⟨fault, -, same⟩ := error_of_mapError_eq_error refused
      cases same

theorem Course.unharmed {destination : Path} {outcome : Outcome Report}
    (course : Course platform config source destination files outcome)
    (named : platform.codec config.encoding = .ok encoding.codec)
    (encodable : config.Encodable encoding) {failure : Failure}
    (failed : outcome.result = .error failure) :
    (∀ path reason, failure ≠ .problem (.destination path (.encode reason))) ∧
      (outcome.files = files ∨ ∃ text context bytes,
        Decoded platform config files source encoding.codec text ∧
        convertText config none text = (context, none) ∧
        encoding.encode context.text = .ok bytes ∧
        Cut platform destination bytes files outcome.files) := by
  -- A text that could not be encoded would be the only other reason to touch the files.
  have encodes : ∀ {codec : Codec} {text : Text} {context : Context},
      Decoded platform config files source codec text →
      convertText config none text = (context, none) →
      ∃ bytes, codec.encode context.text = .ok bytes := by
    intro codec text context decoded converted
    obtain rfl : encoding.codec = codec := Except.ok.inj (named.symm.trans decoded.named)
    obtain ⟨bytes, encoded⟩ := decoded.encodes encodable converted
    exact ⟨bytes, Encoding.codec_encode_eq_ok_iff.mpr encoded⟩
  cases course with
  | stopped elsewhere =>
      obtain rfl := Except.error.inj failed
      refine ⟨?_, .inl rfl⟩
      rintro path reason rfl
      cases elsewhere
  | refused decoded converted refused =>
      obtain rfl := Except.error.inj failed
      refine ⟨?_, .inl rfl⟩
      rintro path reason rfl
      exact openDestination_ne_encode refused
  | emptied decoded converted opens refused =>
      obtain ⟨bytes, encoded⟩ := encodes decoded converted
      cases encoded.symm.trans refused
  | broken decoded converted opens broken =>
      obtain ⟨bytes, encoded⟩ := encodes decoded converted
      cases encoded.symm.trans broken
  | cut decoded converted opens encoded stopped =>
      obtain rfl := Except.error.inj failed
      obtain rfl := Except.ok.inj (named.symm.trans decoded.named)
      refine ⟨?_, .inr ⟨_, _, _, decoded, converted, Encoding.codec_encode_eq_ok_iff.mp encoded,
        cut_of_opens opens stopped⟩⟩
      intro path reason same
      cases same
  | written => cases failed

end Conversion

/-- Every character of an output stands in a line of the source, in the documentation marker, in a
tag or in the line separator, or is one of six signs. So an encoding that can hold the marker and
the tags can hold the output of whatever is read in it: no run fails because its text cannot be
encoded, and a run that fails leaves all files as they were, unless the system stops the write. -/
theorem convertLines_origin_encodable (config : Config) :
    (∀ source lines, ∀ line ∈ (convertLines config source lines).1.yield.lines,
      ∀ c ∈ line, Origin config lines c) ∧
    ∀ platform encoding, Platform.codec platform config.encoding = .ok encoding.codec →
      config.Encodable encoding → ∀ source destination files,
        (∀ text context,
          Conversion.Decoded platform config files source encoding.codec text →
          convertText config none text = (context, none) →
          ∃ bytes, encoding.encode context.text = .ok bytes) ∧
        ∀ failure,
          (convertFile platform config source destination files).result = .error failure →
          (∀ path reason, failure ≠ .problem (.destination path (.encode reason))) ∧
          ((convertFile platform config source destination files).files = files ∨
            ∃ text context bytes,
              Conversion.Decoded platform config files source encoding.codec text ∧
              convertText config none text = (context, none) ∧
              encoding.encode context.text = .ok bytes ∧
              Conversion.Cut platform destination bytes files
                (convertFile platform config source destination files).files) := by
  refine ⟨origin_convertLines config, ?_⟩
  intro platform encoding named encodable source destination files
  constructor
  · intro text context decoded converted
    exact decoded.encodes encodable converted
  · intro failure failed
    have course := Conversion.convertFile_course platform config source destination files
    exact course.unharmed named encodable failed

/-- A file in Latin-1 that is converted into itself, and one that cannot be, because its block is
never closed. -/
theorem convertLines_origin_encodable_latin :
    let config : Config := { tags := { summary := ['é'] }, encoding := some "latin-1".toList }
    let closed : Path := ⟨.relative, [['a']]⟩
    let unclosed : Path := ⟨.relative, [['b']]⟩
    let text := "\x7b@@ Summary: ü \x7d\n".toList
    let files : FileSystem := { entries :=
      [(⟨[['a']]⟩, .file (text.map fun c => UInt8.ofNat c.toNat)),
        (⟨[['b']]⟩, .file [0x7B, 0x40, 0x40, 0xFC])] }
    config.Accepted ∧ config.Encodable .latin1 ∧
      Conversion.Decoded .standard config files closed Encoding.latin1.codec text ∧
      (∃ bytes, Encoding.latin1.encode (convertText config none text).1.text = .ok bytes) ∧
      (convertFile .standard config unclosed unclosed files).files = files := by
  intro config closed unclosed text files
  have accepted : config.Accepted :=
    ⟨1, .map [(.text "tags".toList, .map [(.text "summary".toList, .text ['é'])]),
      (.text "encoding".toList, .text "latin-1".toList)], rfl⟩
  have encodable : config.Encodable .latin1 := by
    have small : ∀ text ∈ config.writtenTexts, ∀ c ∈ text, c.toNat < 256 := by
      simp [config, Config.writtenTexts, Tags.texts]
    exact fun text written => Encoding.exists_encode_iff.mpr (small text written)
  have decoded : Conversion.Decoded .standard config files closed Encoding.latin1.codec text :=
    ⟨rfl, _, rfl, rfl⟩
  have converted : (convertText config none text).2 = none := rfl
  obtain ⟨-, harmless⟩ := convertLines_origin_encodable config
  refine ⟨accepted, encodable, decoded, ?_, ?_⟩
  · exact (harmless .standard .latin1 rfl encodable closed closed files).1 text _ decoded
      (Prod.ext rfl converted)
  · rcases ((harmless .standard .latin1 rfl encodable unclosed unclosed files).2 _ rfl).2 with
      same | ⟨_, _, _, _, _, _, place, count, fault, _, impossible, _⟩
    · exact same
    · cases impossible

end Docblock
