import ReleasePacker.Config.Resolve
import ReleasePacker.Process.Scripted
import ReleasePacker.Proofs.Config
import ReleasePacker.Proofs.Task
import ReleasePacker.Proofs.Text.Separators
import ReleasePacker.Proofs.Text.Trimming

/-!
# Which texts give a version

A label is read from a text that may have blanks around it. Whether there is one, and which, follows
from the text alone, and a text in which there is none is refused for being blank or for the first
character that may not stand in a label. What a repository answers is such a text in its first line:
the bytes behind the line do not count, nor does the way in which the line ends.
-/

namespace ReleasePacker.VersionLabel

variable {text label : String} {version : VersionLabel}

/-- A character that may stand in a label. -/
def IsPlain (c : Char) : Prop := Text.isBlank c = false ∧ c ≠ '/' ∧ c ≠ '\\'

instance (c : Char) : Decidable (IsPlain c) := inferInstanceAs (Decidable (_ ∧ _ ∧ _))

/-- The label stands in the text with nothing but blanks around it. -/
structure IsLabelOf (label text : String) : Prop where
  padded : Text.IsPadded label.toList text.toList
  nonempty : label ≠ ""
  plain : ∀ c ∈ label.toList, IsPlain c

theorem isForbidden_eq_false {c : Char} : isForbidden c = false ↔ IsPlain c := by
  simp only [isForbidden, IsPlain, Bool.or_eq_false_iff, decide_eq_false_iff_not, and_assoc, ne_eq]

theorem isLabel_eq_true : isLabel text = true ↔ text ≠ "" ∧ ∀ c ∈ text.toList, IsPlain c := by
  simp only [isLabel, Bool.and_eq_true, Bool.not_eq_true', List.isEmpty_eq_false_iff,
    List.any_eq_false, Bool.not_eq_true, isForbidden_eq_false, ne_eq, String.toList_eq_nil_iff]

/-- A label has no blanks at its ends, so it is what trimming leaves. -/
theorem IsLabelOf.trim_eq (stands : IsLabelOf label text) : Text.trim text = label := by
  have trimmed : Text.IsTrimmed label.toList :=
    Text.isTrimmed_of_visible fun c inside => (stands.plain c inside).1
  rw [← String.toList_inj, Text.toList_trim]
  exact Text.trimChars_eq_iff.mpr ⟨trimmed, stands.padded⟩

theorem isLabelOf_iff : IsLabelOf label text ↔ Text.trim text = label ∧ isLabel label = true := by
  rw [isLabel_eq_true]
  constructor
  · exact fun stands => ⟨stands.trim_eq, stands.nonempty, stands.plain⟩
  · rintro ⟨rfl, nonempty, plain⟩
    exact ⟨by rw [Text.toList_trim]; exact Text.isPadded_trimChars _, nonempty, plain⟩

theorem IsLabelOf.unique {other : String} (stands : IsLabelOf label text)
    (otherStands : IsLabelOf other text) : label = other :=
  stands.trim_eq.symm.trans otherStands.trim_eq

/-- A text is read without regard to the blanks around it. -/
theorem ofText_congr {other : String} (same : Text.trim text = Text.trim other) :
    ofText text = ofText other := by
  unfold ofText
  rw [same]

theorem ofText_eq_ok : ofText text = .ok version ↔ IsLabelOf version.text text := by
  rw [isLabelOf_iff]
  unfold ofText
  dsimp only
  split
  next wellFormed =>
    obtain ⟨read, labelled⟩ := version
    simp only [Except.ok.injEq, mk.injEq]
    exact ⟨fun same => ⟨same, labelled⟩, And.left⟩
  next malformed =>
    refine ⟨fun same => ?_, fun ⟨same, labelled⟩ => absurd (same ▸ labelled) malformed⟩
    split at same <;> cases same

/-- Where the labels that a text gives are those that stand in it, there is one to be had for each
of them. -/
theorem exists_version_iff {result : Except ReleaseError VersionLabel}
    (reads : ∀ version, result = .ok version ↔ IsLabelOf version.text text) :
    (∃ version, result = .ok version ∧ version.text = label) ↔ IsLabelOf label text := by
  constructor
  · rintro ⟨version, read, rfl⟩
    exact (reads version).mp read
  · intro stands
    have wellFormed : isLabel label = true := (isLabelOf_iff.mp stands).2
    exact ⟨⟨label, wellFormed⟩, (reads _).mpr stands, rfl⟩

/-- What the repository answers, as text: the first line of the output. -/
def describedLine (stdout : Bytes) : String :=
  String.ofList (Text.firstLine (Utf8.decodeLossyChars stdout))

theorem parseDescription_eq (stdout : Bytes) :
    parseDescription stdout = (ofText (describedLine stdout)).mapError fun fault =>
      .versionResolution
        ("git describe --tags printed no usable version: " ++ fault.message) := by
  delta parseDescription describedLine
  cases ofText (String.ofList (Text.firstLine (Utf8.decodeLossyChars stdout))) <;> rfl

theorem parseDescription_eq_ok {stdout : Bytes} :
    parseDescription stdout = .ok version ↔ IsLabelOf version.text (describedLine stdout) := by
  rw [← ofText_eq_ok, parseDescription_eq]
  cases ofText (describedLine stdout) <;> simp [Except.mapError]

section

variable {σ : Type} {options : Options} {context : ProcessContext} {files : FileSystem}
  {config : ReleaseConfig} {executor : Executor σ} {world after : World σ}

end

theorem newline_mem_iff {bytes : Bytes} : '\n' ∈ Utf8.decodeLossyChars bytes ↔ 0x0A ∈ bytes := by
  have plain : Utf8.IsPlain 0x0A := by decide
  exact Utf8.plainChar_mem_iff plain

theorem describedLine_of_notMem {line : Bytes} (oneLine : 0x0A ∉ line) :
    describedLine line = Utf8.decodeLossy line := by
  rw [describedLine, Text.firstLine_of_notMem (mt newline_mem_iff.mp oneLine), Utf8.decodeLossy]

/-- What comes after the line end is not looked at, and the line itself is read as if it were all
there is, but for a carriage return at its end. -/
theorem trim_describedLine {line : Bytes} (oneLine : 0x0A ∉ line) (rest : Bytes) :
    Text.trim (describedLine (line ++ 0x0A :: rest)) = Text.trim (Utf8.decodeLossy line) := by
  have decoded : Utf8.decodeLossyChars (line ++ 0x0A :: rest) =
      Utf8.decodeLossyChars line ++ '\n' :: Utf8.decodeLossyChars rest :=
    Utf8.decodeLossyChars_append_cons (by decide) line rest
  -- One carriage return is left out here and not there, but a blank it is in both places.
  have blank := (Text.isPadded_dropReturn (Utf8.decodeLossyChars line)).trimChars_eq
  rw [describedLine, decoded, Text.firstLine_append_cons (mt newline_mem_iff.mp oneLine),
    Utf8.decodeLossy, Text.trim, Text.trim, String.toList_ofList, String.toList_ofList, blank]

theorem parseDescription_congr {stdout other : Bytes}
    (same : Text.trim (describedLine stdout) = Text.trim (describedLine other)) :
    parseDescription stdout = parseDescription other := by
  rw [parseDescription_eq, parseDescription_eq, ofText_congr same]

/-- Only the first line of an answer counts, whatever bytes it is made of and whatever bytes come
after it, and it gives a version exactly if what it decodes to is a label with blanks around it. -/
theorem parseDescription_line {line : Bytes} (oneLine : 0x0A ∉ line) (rest : Bytes) :
    parseDescription (line ++ 0x0A :: rest) = parseDescription line ∧
    ∀ label, (∃ version, parseDescription line = .ok version ∧ version.text = label) ↔
      Text.trim (Utf8.decodeLossy line) = label ∧ label ≠ "" ∧
        ∀ c ∈ label.toList, IsPlain c := by
  have alone := describedLine_of_notMem oneLine
  refine ⟨parseDescription_congr ?_, fun label => ?_⟩
  · rw [trim_describedLine oneLine, alone]
  · rw [← isLabel_eq_true, ← isLabelOf_iff, ← alone]
    exact exists_version_iff fun _ => parseDescription_eq_ok

/-- The line ends in a character that is broken off and in carriage returns, and what follows it is
no text. -/
theorem parseDescription_line_broken :
    let line : Bytes := [0x76, 0x31, 0xE2, 0x82, 0x0D, 0x0D]
    0x0A ∉ line ∧ parseDescription (line ++ 0x0A :: [0xFF, 0x2F]) = parseDescription line ∧
      ∃ version, parseDescription line = .ok version ∧ version.text = "v1\uFFFD" := by
  intro line
  have oneLine : 0x0A ∉ line := by decide
  obtain ⟨same, reads⟩ := parseDescription_line oneLine [0xFF, 0x2F]
  exact ⟨oneLine, same, (reads _).mpr ⟨by decide +kernel, isLabel_eq_true.mp (by decide +kernel)⟩⟩

end ReleasePacker.VersionLabel
