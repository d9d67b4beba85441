import ClusterNav.Layout.YamlLine
import Mathlib.Data.List.DropRight
import Mathlib.Data.List.TakeWhile

/-!
# The text of a coloured line

Colouring cuts a line into parts and joins them again.  Everything up to the colon of a
key is joined as it was.  A value is not: the blanks at its ends are dropped, and one
space is put before what is left.  So a line keeps its text just when its value, if it
has one, is a word after one space.

**Results.**
* `splitKey?_eq_some_iff`: which content has a key and a value.
* `Field`: a line with a key, and `exists_field_or_text_highlight`: a line without one
  keeps its text.
* `coloured_text`: the text of every coloured line, and when it is that of the line.
* `coloured_text_lost`: a line that does not keep its text.
-/

namespace ClusterNav
namespace YamlLine

open Text (isBlank trimChars trimStartChars)

/-! ## Blanks at the ends -/

/-- There is no blank at either end. -/
structure Trimmed (word : List Char) : Prop where
  head : ∀ c, word.head? = some c → isBlank c = false
  last : ∀ c, word.getLast? = some c → isBlank c = false

theorem trimChars_eq (cs : List Char) :
    trimChars cs = (cs.dropWhile isBlank).rdropWhile isBlank := rfl

theorem trimChars_of_trimmed {word : List Char} (h : Trimmed word) : trimChars word = word := by
  have hstart : word.dropWhile isBlank = word := by
    cases word with
    | nil => rfl
    | cons c rest =>
        have hc : isBlank c = false := h.head c rfl
        simp [hc]
  rw [trimChars_eq, hstart, List.rdropWhile_eq_self_iff]
  intro hne
  have hlast : isBlank (word.getLast hne) = false :=
    h.last _ (List.getLast?_eq_some_getLast hne)
  simp [hlast]

theorem trimmed_trimChars (cs : List Char) : Trimmed (trimChars cs) := by
  rw [trimChars_eq]
  set inner := cs.dropWhile isBlank with hinner
  constructor
  case head =>
    intro c hc
    have hprefix : inner.rdropWhile isBlank <+: inner := List.rdropWhile_prefix _ _
    have hhead : inner.head? = some c := by
      obtain ⟨rest, hrest⟩ := List.head?_eq_some_iff.mp hc
      obtain ⟨dropped, hdropped⟩ := hprefix
      rw [← hdropped, hrest]
      rfl
    have := List.head?_dropWhile_not isBlank cs
    rw [← hinner, hhead] at this
    simpa using this
  case last =>
    intro c hc
    have hne : inner.rdropWhile isBlank ≠ [] := by
      rintro hnil
      simp [hnil] at hc
    rw [List.getLast?_eq_some_getLast hne, Option.some_inj] at hc
    have := List.rdropWhile_last_not isBlank inner hne
    simpa [hc] using this

/-- A space before a text is trimmed away. -/
theorem trimChars_cons_space (cs : List Char) : trimChars (' ' :: cs) = trimChars cs := by
  have hspace : isBlank ' ' = true := by decide
  simp [trimChars_eq, hspace]

theorem trimChars_sublist (cs : List Char) : (trimChars cs).Sublist cs := by
  rw [trimChars_eq]
  exact (List.rdropWhile_prefix _ _).sublist.trans (List.dropWhile_sublist _)

/-- The characters of a text that are no blanks. -/
def inked (cs : List Char) : List Char :=
  cs.filter fun c => !isBlank c

theorem inked_append (front back : List Char) : inked (front ++ back) = inked front ++ inked back :=
  List.filter_append ..

theorem inked_reverse (cs : List Char) : inked cs.reverse = (inked cs).reverse :=
  List.filter_reverse ..

theorem inked_trimStartChars (cs : List Char) : inked (trimStartChars cs) = inked cs := by
  induction cs with
  | nil => rfl
  | cons c rest ih =>
      unfold trimStartChars at ih ⊢
      cases hc : isBlank c with
      | true => simpa [inked, hc] using ih
      | false => simp [hc]

/-- Trimming drops blanks only. -/
theorem inked_trimChars (cs : List Char) : inked (trimChars cs) = inked cs := by
  rw [trimChars, inked_reverse, inked_trimStartChars, inked_reverse, inked_trimStartChars,
    List.reverse_reverse]

/-! ## Keys and values -/

/-- Can the characters before a colon be a key? -/
structure IsKey (key : List Char) : Prop where
  ne_nil : key ≠ []
  no_colon : ':' ∉ key
  no_space : ' ' ∉ key
  not_quoted : key.head? ≠ some '\x22'

/-- Can the characters after a colon be a value? -/
def IsValue (value : List Char) : Prop :=
  ∀ c, value.head? = some c → c = ' '

/-- Content is cut at its first colon. -/
theorem splitKey?_eq_some_iff (content key value : List Char) :
    splitKey? content = some (key, value) ↔
      content = key ++ ':' :: value ∧ IsKey key ∧ IsValue value := by
  have hvalue : value.head?.all (· == ' ') = true ↔ IsValue value := by
    cases value <;> simp [IsValue]
  constructor
  case mp =>
    intro h
    have hcut := List.takeWhile_append_dropWhile (p := (· != ':')) (l := content)
    have hcolon : ':' ∉ content.takeWhile (· != ':') := by
      intro hmem
      simpa using List.mem_takeWhile_imp hmem
    have hstop := List.head?_dropWhile_not (· != ':') content
    unfold splitKey? at h
    cases hafter : content.dropWhile (· != ':') with
    | nil => simp [hafter] at h
    | cons c rest =>
        rw [hafter] at hcut hstop
        have hc : c = ':' := by simpa using hstop
        simp only [hafter] at h
        split at h
        case isTrue => cases h
        case isFalse hkey =>
          split at h
          case isFalse => cases h
          case isTrue hrest =>
            cases h
            subst hc
            simp only [Bool.or_eq_true, not_or, List.isEmpty_iff, List.contains_iff_mem,
              beq_iff_eq] at hkey
            exact ⟨hcut.symm, ⟨hkey.1.1, hcolon, hkey.1.2, hkey.2⟩, hvalue.mp hrest⟩
  case mpr =>
    rintro ⟨rfl, hkey, hrest⟩
    have hall : ∀ c ∈ key, (c != ':') = true := by
      intro c hc
      simpa using fun e : c = ':' => hkey.no_colon (e ▸ hc)
    have htake : (key ++ ':' :: value).takeWhile (· != ':') = key := by
      simp [List.takeWhile_append_of_pos hall]
    have hdrop : (key ++ ':' :: value).dropWhile (· != ':') = ':' :: value := by
      simp [List.dropWhile_append_of_pos hall]
    unfold splitKey?
    simp [htake, hdrop, hvalue.mpr hrest, hkey.ne_nil, hkey.no_space, hkey.not_quoted]

/-- A line with a key, in its parts. -/
structure Field where
  indent : Nat
  /-- Is there a list marker before the key? -/
  listed : Bool
  key : List Char
  /-- All that stands after the colon. -/
  value : List Char
  isKey : IsKey key
  isValue : IsValue value
  /-- A line that starts with a hash sign is a comment. -/
  not_comment : listed = false → key.head? ≠ some '#'

namespace Field

/-- The line after its indentation and list marker. -/
def content (f : Field) : List Char :=
  f.key ++ ':' :: f.value

/-- The line after its indentation. -/
def body (f : Field) : List Char :=
  if f.listed then '-' :: ' ' :: f.content else f.content

def line (f : Field) : String :=
  String.ofList (List.replicate f.indent ' ' ++ f.body)

/-- The field with another value. -/
def withValue (f : Field) (value : List Char) (h : IsValue value) : Field :=
  { f with value := value, isValue := h }

/-- The value as it is joined again: what is left of it, after one space. -/
def shown (f : Field) : List Char :=
  if trimChars f.value = [] then [] else ' ' :: trimChars f.value

theorem isValue_shown (f : Field) : IsValue f.shown := by
  unfold shown IsValue
  split <;> simp

/-- Is there no value, or a word after one space? -/
def Tidy (f : Field) : Prop :=
  f.value = [] ∨ ∃ word, f.value = ' ' :: word ∧ word ≠ [] ∧ Trimmed word

theorem shown_eq_value_iff (f : Field) : f.shown = f.value ↔ f.Tidy := by
  unfold shown Tidy
  constructor
  case mp =>
    intro h
    split at h
    case isTrue => exact Or.inl h.symm
    case isFalse hne =>
      exact Or.inr ⟨_, h.symm, hne, trimmed_trimChars f.value⟩
  case mpr =>
    rintro (hnil | ⟨word, hvalue, hne, htrimmed⟩)
    · have htrim : trimChars f.value = [] := by rw [hnil]; rfl
      rw [if_pos htrim, hnil]
    · have htrim : trimChars f.value = word := by
        rw [hvalue, trimChars_cons_space, trimChars_of_trimmed htrimmed]
      rw [htrim, if_neg hne, hvalue]

/-- Joining drops blanks of the value. -/
theorem shown_sublist (f : Field) : f.shown.Sublist f.value := by
  unfold shown
  split
  case isTrue => exact List.nil_sublist _
  case isFalse hne =>
    cases hvalue : f.value with
    | nil => exact absurd (by rw [hvalue]; rfl) hne
    | cons c rest =>
        have hc : c = ' ' := f.isValue c (by rw [hvalue]; rfl)
        subst hc
        rw [trimChars_cons_space]
        exact (trimChars_sublist rest).cons_cons ' '

theorem inked_shown (f : Field) : inked f.shown = inked f.value := by
  have htrim : inked (trimChars f.value) = inked f.value := inked_trimChars f.value
  unfold shown
  split
  case isTrue hnil => rw [← htrim, hnil]
  case isFalse =>
    have hspace : isBlank ' ' = true := by decide
    rw [← htrim]
    simp [inked, hspace]

end Field

/-! ## The parts of a line -/

/-- The characters of spans. -/
def letters (spans : List Span) : List Char :=
  spans.flatMap fun span => span.text.toList

theorem letters_cons (span : Span) (spans : List Span) :
    letters (span :: spans) = span.text.toList ++ letters spans := rfl

theorem letters_append (front back : List Span) :
    letters (front ++ back) = letters front ++ letters back :=
  List.flatMap_append ..

theorem toList_text_highlight (line : String) :
    (highlight line).text.toList =
      line.toList.takeWhile (· == ' ') ++
        letters (bodySpans (line.toList.dropWhile (· == ' '))) := by
  rw [Line.toList_text]
  simp [highlight, Line.cells, Span.cells, letters, Span.raw, List.map_flatMap, Function.comp_def]

theorem letters_valueSpans (value : List Char) :
    letters (valueSpans value) = if value = [] then [] else ' ' :: value := by
  unfold valueSpans
  cases value with
  | nil => rfl
  | cons c rest => simp [letters, Span.raw]

/-- Content without a key is one span. -/
theorem letters_contentSpans_of_none {content : List Char} (h : splitKey? content = none) :
    letters (contentSpans content) = content := by
  simp [contentSpans, h, letters]

theorem Field.letters_contentSpans (f : Field) :
    letters (contentSpans f.content) = (f.withValue f.shown f.isValue_shown).content := by
  have hsplit : splitKey? f.content = some (f.key, f.value) :=
    (splitKey?_eq_some_iff _ _ _).mpr ⟨rfl, f.isKey, f.isValue⟩
  have hvalue : letters (valueSpans (trimChars f.value)) = f.shown :=
    letters_valueSpans _
  simp only [contentSpans, hsplit, letters_append, hvalue]
  simp [letters, content, withValue]

/-- A body that is no comment and has no list marker is all content. -/
theorem bodySpans_of_plain {body : List Char}
    (hne : body ≠ [])
    (hcomment : body.head? ≠ some '#')
    (hmarker : ¬ ['-', ' '] <+: body) :
    bodySpans body = contentSpans body := by
  unfold bodySpans
  split
  case h_1 => exact absurd rfl hne
  case h_2 => exact absurd rfl hcomment
  case h_3 rest => exact absurd ⟨rest, rfl⟩ hmarker
  case h_4 => rfl

theorem Field.bodySpans_content {f : Field} (h : f.listed = false) :
    bodySpans f.content = contentSpans f.content := by
  obtain ⟨c, rest, hkey⟩ := List.exists_cons_of_ne_nil f.isKey.ne_nil
  apply bodySpans_of_plain
  case hne => simp [content, hkey]
  case hcomment => simpa [content, hkey] using f.not_comment h
  case hmarker =>
    -- after the dash stands the colon or a character of the key, and neither is a space
    have hspace : ' ' ∉ f.key := f.isKey.no_space
    rintro ⟨tail, htail⟩
    cases rest with
    | nil => simp [content, hkey] at htail
    | cons d rest => simp_all [content]

/-- Colouring a body sets its value anew. -/
theorem Field.letters_bodySpans (f : Field) :
    letters (bodySpans f.body) = (f.withValue f.shown f.isValue_shown).body := by
  have hcontent := f.letters_contentSpans
  cases hlisted : f.listed with
  | true =>
      have hbody : f.body = '-' :: ' ' :: f.content := if_pos hlisted
      rw [hbody, bodySpans, letters_cons, hcontent]
      exact (if_pos hlisted).symm
  | false =>
      have hbody : f.body = f.content := if_neg (by simp [hlisted])
      rw [hbody, bodySpans_content hlisted, hcontent]
      exact (if_neg (by simp [withValue, hlisted])).symm

theorem Field.head?_body_ne (f : Field) : f.body.head? ≠ some ' ' := by
  obtain ⟨c, rest, hkey⟩ := List.exists_cons_of_ne_nil f.isKey.ne_nil
  have hc : c ≠ ' ' := by
    rintro rfl
    exact f.isKey.no_space (by simp [hkey])
  unfold body content
  cases f.listed with
  | true => simp
  | false => simpa [hkey] using hc

/-- The line of a field is coloured as the field with its value set anew. -/
theorem Field.text_highlight (f : Field) :
    (highlight f.line).text = (f.withValue f.shown f.isValue_shown).line := by
  have hspaces : ∀ c ∈ List.replicate f.indent ' ', (c == ' ') = true := by
    intro c hc
    simpa using List.eq_of_mem_replicate hc
  have hstart : f.body.takeWhile (· == ' ') = [] ∧ f.body.dropWhile (· == ' ') = f.body := by
    have hhead := f.head?_body_ne
    cases hbody : f.body with
    | nil => exact ⟨rfl, rfl⟩
    | cons c rest => simp_all
  rw [← String.toList_inj, toList_text_highlight, line, String.toList_ofList,
    List.takeWhile_append_of_pos hspaces, List.dropWhile_append_of_pos hspaces, hstart.1, hstart.2,
    List.append_nil, letters_bodySpans, line, String.toList_ofList]
  rfl

/-- What is no field is joined as it was cut. -/
theorem exists_field_or_letters_bodySpans (indent : Nat) (body : List Char) :
    (∃ f : Field, f.indent = indent ∧ f.body = body) ∨ letters (bodySpans body) = body := by
  unfold bodySpans
  split
  case h_1 => exact Or.inr rfl
  case h_2 => exact Or.inr (by simp [letters])
  case h_3 rest =>
    cases hsplit : splitKey? rest with
    | none => exact Or.inr (by simp [letters_cons, letters_contentSpans_of_none hsplit])
    | some parts =>
        obtain ⟨hrest, hkey, hvalue⟩ := (splitKey?_eq_some_iff _ _ _).mp hsplit
        refine Or.inl ⟨⟨indent, true, parts.1, parts.2, hkey, hvalue, nofun⟩, rfl, ?_⟩
        rw [hrest]
        rfl
  case h_4 hcomment _ =>
    cases hsplit : splitKey? body with
    | none => exact Or.inr (letters_contentSpans_of_none hsplit)
    | some parts =>
        obtain ⟨hbody, hkey, hvalue⟩ := (splitKey?_eq_some_iff _ _ _).mp hsplit
        refine Or.inl ⟨⟨indent, false, parts.1, parts.2, hkey, hvalue, ?_⟩, rfl, hbody.symm⟩
        rintro - hhash
        obtain ⟨rest, hrest⟩ := List.head?_eq_some_iff.mp hhash
        exact hcomment _ (by rw [hbody, hrest]; rfl)

theorem exists_field_or_text_highlight (line : String) :
    (∃ f : Field, f.line = line) ∨ (highlight line).text = line := by
  have hcut := List.takeWhile_append_dropWhile (p := (· == ' ')) (l := line.toList)
  have hindent : line.toList.takeWhile (· == ' ') =
      List.replicate (line.toList.takeWhile (· == ' ')).length ' ' := by
    refine List.eq_replicate_iff.mpr ⟨rfl, ?_⟩
    intro c hc
    simpa using List.mem_takeWhile_imp hc
  rcases exists_field_or_letters_bodySpans (line.toList.takeWhile (· == ' ')).length
    (line.toList.dropWhile (· == ' ')) with ⟨f, hf, hbody⟩ | hletters
  · left
    refine ⟨f, ?_⟩
    rw [Field.line, hf, hbody, ← hindent, hcut, String.ofList_toList]
  · right
    rw [← String.toList_inj, toList_text_highlight, hletters, hcut]

/-! ## The coloured line -/

namespace Field

/-- Two fields that differ in their values have one line up to the value. -/
theorem exists_line_eq (f : Field) :
    ∃ front : List Char, ∀ value h,
      (f.withValue value h).line.toList = front ++ value := by
  by_cases hlisted : f.listed = true
  · refine ⟨List.replicate f.indent ' ' ++ '-' :: ' ' :: f.key ++ [':'], fun value h => ?_⟩
    simp [line, body, content, withValue, hlisted]
  · refine ⟨List.replicate f.indent ' ' ++ f.key ++ [':'], fun value h => ?_⟩
    simp [line, body, content, withValue, hlisted]

theorem withValue_line_eq_iff (f : Field) (value : List Char) (h : IsValue value) :
    (f.withValue value h).line = f.line ↔ value = f.value := by
  obtain ⟨front, hfront⟩ := f.exists_line_eq
  have hline : f.line.toList = front ++ f.value := hfront f.value f.isValue
  rw [← String.toList_inj, hfront, hline, List.append_cancel_left_eq]

/-- Colouring the line of a field drops blanks only. -/
theorem blanks_dropped (f : Field) :
    (highlight f.line).text.toList.Sublist f.line.toList ∧
      inked (highlight f.line).text.toList = inked f.line.toList := by
  obtain ⟨front, hfront⟩ := f.exists_line_eq
  have hline : f.line.toList = front ++ f.value := hfront f.value f.isValue
  have htext : (highlight f.line).text.toList = front ++ f.shown := by
    rw [f.text_highlight, hfront]
  rw [htext, hline, inked_append, inked_append, f.inked_shown]
  exact ⟨f.shown_sublist.append_left front, rfl⟩

end Field

/-- Colouring a line with a key drops the blanks at the ends of its value and puts one
space before what is left; any other line keeps its text.  So blanks are all that is
ever lost, and none is lost exactly when a value that the line has is a word after one
space. -/
theorem coloured_text (line : String) :
    ((highlight line).text.toList.Sublist line.toList ∧
      inked (highlight line).text.toList = inked line.toList) ∧
    (∀ f : Field, f.line = line →
      (highlight line).text = (f.withValue f.shown f.isValue_shown).line) ∧
    ((highlight line).text = line ↔ ∀ f : Field, f.line = line → f.Tidy) := by
  refine ⟨?_, fun f hf => hf ▸ f.text_highlight, ?_⟩
  · rcases exists_field_or_text_highlight line with ⟨f, rfl⟩ | hkept
    · exact f.blanks_dropped
    · rw [hkept]
      exact ⟨List.Sublist.refl _, rfl⟩
  · constructor
    case mp =>
      rintro hkept f rfl
      rw [f.text_highlight, f.withValue_line_eq_iff] at hkept
      exact f.shown_eq_value_iff.mp hkept
    case mpr =>
      intro htidy
      rcases exists_field_or_text_highlight line with ⟨f, rfl⟩ | hkept
      · rw [f.text_highlight, f.withValue_line_eq_iff]
        exact f.shown_eq_value_iff.mpr (htidy f rfl)
      · exact hkept

/-- A second space after the colon is lost. -/
theorem coloured_text_lost :
    ¬ ∀ line : String, '\n' ∉ line.toList → (highlight line).text = line := by
  intro h
  have hlost : (highlight "key:  value").text = "key: value" := by decide
  have hkept := h "key:  value" (by decide)
  rw [hlost] at hkept
  exact absurd hkept (by decide)

end YamlLine
end ClusterNav
