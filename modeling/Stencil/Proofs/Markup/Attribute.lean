import Stencil.Proofs.Markup.Nesting
import Stencil.Proofs.Text.Search

/-! # Names and attributes of elements

A tag is read with its name and its attributes. An attribute stands behind a blank, and its value in
single or in double quotes; the prefix of a namespace is no part of a local name.
-/

namespace Stencil.Markup

/-- The name that a tag begins with. -/
def tagName : Markup → List Char
  | '<' :: '/' :: rest => rest.takeWhile isNameChar
  | '<' :: rest => rest.takeWhile isNameChar
  | _ => []

/-- The name of a tag without the prefix of a namespace. -/
def localName (element : Markup) : List Char :=
  match Text.splitLast? ':' (tagName element) with
  | some (_, name) => name
  | none => tagName element

/-- Whether the character belongs to the name of an attribute. -/
def isAttributeChar (c : Char) : Bool :=
  !c.isWhitespace && c != '='

/-- The attribute at the start of a text, and what follows it. Blanks may surround the equals sign. -/
def readAttribute? (text : List Char) : Option ((List Char × List Char) × List Char) :=
  match (text.dropWhile isAttributeChar).dropWhile Char.isWhitespace with
  | '=' :: valued =>
    match valued.dropWhile Char.isWhitespace with
    | quote :: quoted =>
      if quote = '\x22' ∨ quote = '\x27' then
        match quoted.dropWhile (· ≠ quote) with
        | _ :: after => some ((text.takeWhile isAttributeChar, quoted.takeWhile (· ≠ quote)), after)
        | [] => none
      else none
    | [] => none
  | _ => none

/-- What follows an attribute is shorter than the text. -/
theorem length_lt_of_readAttribute? {text after : List Char} {named : List Char × List Char}
    (h : readAttribute? text = some (named, after)) : after.length < text.length := by
  have shorter (p : Char → Bool) (text : List Char) : (text.dropWhile p).length ≤ text.length :=
    (List.dropWhile_sublist p).length_le
  unfold readAttribute? at h
  split at h
  · next valued equals =>
    have front := shorter Char.isWhitespace (text.dropWhile isAttributeChar)
    have name := shorter isAttributeChar text
    split at h
    · next quote quoted opened =>
      have blanks := shorter Char.isWhitespace valued
      split at h
      · split at h
        · next closing behind closed =>
          have value := shorter (· ≠ quote) quoted
          rw [equals] at front
          rw [opened] at blanks
          rw [closed] at value
          cases h
          simp only [List.length_cons] at front blanks value
          omega
        · cases h
      · cases h
    · cases h
  · cases h

/-- The attributes of a tag, from a place between them on. -/
def attributesFrom : List Char → List (List Char × List Char)
  | [] => []
  | c :: rest =>
    if c.isWhitespace then
      match _h : readAttribute? rest with
      | some (named, after) => named :: attributesFrom after
      | none => attributesFrom rest
    else attributesFrom rest
termination_by text => text.length
decreasing_by
  · have := length_lt_of_readAttribute? _h
    simp only [List.length_cons]
    omega
  · simp
  · simp

/-- The value of an attribute of a tag. -/
def attribute? (name : String) (element : Markup) : Option (List Char) :=
  (attributesFrom element).lookup name.toList

/-- The value that an element gives to an attribute, if the element has the name. -/
def valueIn? (name key : String) (element : Markup) : Option (List Char) :=
  if tagName element = name.toList then attribute? key element else none

/-- The values that the elements of a name give to an attribute, from the left. -/
def values (name key : String) (text : Markup) : List (List Char) :=
  (elements text).filterMap (valueIn? name key)

/-- Whether attributes are read as they are written: no name has a blank or an equals sign, and no
    value a quote. -/
def ReadableAttributes (named : List (String × List Char)) : Prop :=
  ∀ entry ∈ named, entry.1.toList.all isAttributeChar = true ∧ '\x22' ∉ entry.2

instance (named : List (String × List Char)) : Decidable (ReadableAttributes named) :=
  List.decidableBAll _ named

theorem ReadableAttributes.cons {name : String} {value : List Char} {rest : List (String × List Char)}
    (named : name.toList.all isAttributeChar = true) (valued : '\x22' ∉ value)
    (h : ReadableAttributes rest) : ReadableAttributes ((name, value) :: rest) :=
  List.forall_mem_cons.mpr ⟨⟨named, valued⟩, h⟩

section Written

variable {name : String} {named : List (String × List Char)}

private theorem tagName_of_name (h : IsTagName name) {stop : Char} (stops : isNameChar stop = false)
    (rest : List Char) : tagName ('<' :: (name.toList ++ stop :: rest)) = name.toList := by
  have cut := takeWhile_name h stops rest
  obtain ⟨c, others, spelled, slash, -⟩ := exists_cons_of_isTagName h
  rw [spelled, List.cons_append] at cut ⊢
  unfold tagName
  split
  · next same => exact absurd (List.cons.inj (List.cons.inj same).2).1 slash
  · next same =>
    cases same
    exact cut
  · next other => exact absurd rfl (other _)

theorem tagName_endTag (h : IsTagName name) : tagName (endTag name) = name.toList := by
  rw [endTag, List.cons_append, List.cons_append, tagName, takeWhile_name h (by decide)]

theorem tagName_startTag (h : IsTagName name) (named : List (String × List Char)) :
    tagName (startTag name named) = name.toList := by
  rw [startTag, List.cons_append, List.cons_append, List.append_assoc]
  cases named with
  | nil => exact tagName_of_name h (by decide) []
  | cons first named =>
      obtain ⟨inner, spelled⟩ := attributes_cons first named
      rw [spelled]
      exact tagName_of_name h (by decide) _

theorem tagName_emptyTag (h : IsTagName name) (named : List (String × List Char)) :
    tagName (emptyTag name named) = name.toList := by
  rw [emptyTag, List.cons_append, List.cons_append, List.append_assoc]
  cases named with
  | nil => exact tagName_of_name h (by decide) ['>']
  | cons first named =>
      obtain ⟨inner, spelled⟩ := attributes_cons first named
      rw [spelled]
      exact tagName_of_name h (by decide) _

theorem attributesFrom_append {front : List Char} (solid : ∀ c ∈ front, c.isWhitespace = false)
    (rest : List Char) : attributesFrom (front ++ rest) = attributesFrom rest := by
  induction front with
  | nil => rfl
  | cons c front ih =>
      rw [List.forall_mem_cons] at solid
      rw [List.cons_append, attributesFrom, if_neg (by rw [solid.1]; exact Bool.false_ne_true),
        ih solid.2]

theorem attributesFrom_attributeText (named : name.toList.all isAttributeChar = true)
    {value : List Char} (quoted : '\x22' ∉ value) (rest : List Char) :
    attributesFrom (attributeText name value ++ rest) =
      (name.toList, value) :: attributesFrom rest := by
  have read : readAttribute? (name.toList ++ '=' :: '\x22' :: (value ++ '\x22' :: rest)) =
      some ((name.toList, value), rest) := by
    have equals : ¬ isAttributeChar '=' = true := by decide
    have inside : ∀ c ∈ value, decide (c ≠ '\x22') = true := fun c mem =>
      decide_eq_true fun same => quoted (same ▸ mem)
    rw [List.all_eq_true] at named
    rw [readAttribute?, List.dropWhile_append_of_pos named, List.takeWhile_append_of_pos named,
      List.dropWhile_cons_of_neg equals, List.takeWhile_cons_of_neg equals,
      List.dropWhile_cons_of_neg (by decide), List.append_nil]
    simp only
    rw [List.dropWhile_cons_of_neg (by decide)]
    simp only [true_or, if_true]
    rw [List.dropWhile_append_of_pos inside, List.takeWhile_append_of_pos inside,
      List.dropWhile_cons_of_neg (by simp), List.takeWhile_cons_of_neg (by simp), List.append_nil]
  have spelled : attributeText name value ++ rest =
      ' ' :: (name.toList ++ '=' :: '\x22' :: (value ++ '\x22' :: rest)) := by
    simp only [attributeText, List.append_assoc, List.cons_append, List.nil_append]
  rw [spelled, attributesFrom, if_pos (by decide)]
  split
  · next found => rw [read] at found; cases found; rfl
  · next absent => rw [read] at absent; cases absent

theorem attributesFrom_attributes (readable : ReadableAttributes named) (rest : List Char) :
    attributesFrom (attributes named ++ rest) =
      named.map (fun entry => (entry.1.toList, entry.2)) ++ attributesFrom rest := by
  induction named with
  | nil => rfl
  | cons first named ih =>
      obtain ⟨here, later⟩ := List.forall_mem_cons.mp readable
      rw [attributes, List.flatMap_cons, ← attributes, List.append_assoc,
        attributesFrom_attributeText here.1 here.2, ih later]
      rfl

/-- The attributes of an element are read as they are written. -/
theorem attribute?_emptyTag (h : IsTagName name) (readable : ReadableAttributes named)
    (key : String) : attribute? key (emptyTag name named) = named.lookup key := by
  have solid : ∀ c ∈ '<' :: name.toList, c.isWhitespace = false :=
    List.forall_mem_cons.mpr ⟨by decide, fun c => h.isWhitespace_of_mem⟩
  have ending : attributesFrom ['/', '>'] = [] := by
    simp [attributesFrom, Char.isWhitespace]
  rw [attribute?, emptyTag, List.append_assoc, attributesFrom_append solid,
    attributesFrom_attributes readable, ending, List.append_nil]
  clear readable
  induction named with
  | nil => rfl
  | cons first named ih =>
      have same : (key.toList == first.1.toList) = (key == first.1) :=
        Bool.eq_iff_iff.mpr (by rw [beq_iff_eq, beq_iff_eq, String.toList_inj])
      rw [List.map_cons, List.lookup_cons, List.lookup_cons, same, ih]

end Written

section Values

variable {name key tag : String} {named : List (String × List Char)}

theorem valueIn?_emptyTag (h : IsTagName name) (readable : ReadableAttributes named) :
    valueIn? name key (emptyTag name named) = named.lookup key := by
  rw [valueIn?, if_pos (tagName_emptyTag h named), attribute?_emptyTag h readable]

private theorem filterMap_of_tagName {element : Markup} (spelled : tagName element = tag.toList)
    (other : tag ≠ name) (rest : List Markup) :
    (element :: rest).filterMap (valueIn? name key) = rest.filterMap (valueIn? name key) := by
  refine List.filterMap_cons_none ?_
  rw [valueIn?, if_neg]
  rwa [spelled, String.toList_inj]

theorem filterMap_valueIn?_startTag (h : IsTagName tag) (other : tag ≠ name) (rest : List Markup) :
    (startTag tag named :: rest).filterMap (valueIn? name key) =
      rest.filterMap (valueIn? name key) :=
  filterMap_of_tagName (tagName_startTag h named) other rest

theorem filterMap_valueIn?_endTag (h : IsTagName tag) (other : tag ≠ name) (rest : List Markup) :
    (endTag tag :: rest).filterMap (valueIn? name key) =
      rest.filterMap (valueIn? name key) :=
  filterMap_of_tagName (tagName_endTag h) other rest

theorem filterMap_valueIn?_emptyTag (h : IsTagName tag) (other : tag ≠ name) (rest : List Markup) :
    (emptyTag tag named :: rest).filterMap (valueIn? name key) =
      rest.filterMap (valueIn? name key) :=
  filterMap_of_tagName (tagName_emptyTag h named) other rest

theorem filterMap_valueIn?_emptyTag_self (h : IsTagName name) (readable : ReadableAttributes named)
    (rest : List Markup) :
    (emptyTag name named :: rest).filterMap (valueIn? name key) =
      (named.lookup key).toList ++ rest.filterMap (valueIn? name key) := by
  rw [List.filterMap_cons, valueIn?_emptyTag h readable]
  cases named.lookup key <;> rfl

end Values

/-- Other attributes, other quotes and blanks around the equals sign do not hide an attribute. -/
example : attribute? "id" "<wp:docPr title='a id=\"1\"'\n id = '27'/>".toList = some "27".toList := by
  decide +kernel

end Stencil.Markup
