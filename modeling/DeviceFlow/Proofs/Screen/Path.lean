import DeviceFlow.Proofs.Screen.Order
import DeviceFlow.Proofs.Text.Cut
import DeviceFlow.Proofs.Text.Trim
import DeviceFlow.Screen.Path

/-!
# Searches by selectors and by paths

A selector finds the first element in document order with exactly its value, and a path the first
one of its class with the value of its attribute. How paths are written is said apart from how they
are read. Whatever the value is, a path reads it as it is written between the marks: the first
bracket ends the class, the first equals sign ends the name of the attribute, and the last two
characters end the value. So the one search can be written as the other.
-/

namespace DeviceFlow

/-- The attribute whose value a selector asks for, unless the selector is a path. -/
def SelectorKind.attribute? : SelectorKind → Option Attribute
  | .text => some .text
  | .resourceId => some .resourceId
  | .contentDesc => some .contentDesc
  | .className => some .className
  | .xpath => none

/-- The names by which a path asks for an attribute. -/
def Attribute.pathNames : Attribute → List String
  | .text => ["text"]
  | .resourceId => ["resource-id", "resource_id"]
  | .contentDesc => ["content-desc", "content_desc"]
  | .className => ["class", "class_name"]
  | .bounds => ["bounds"]

namespace Path

open Text

/-- An element is of the class that a path begins with, or the path allows every class. The class
    reaches as far as the first bracket. -/
structure OfClass (className : List Char) (e : Element) : Prop where
  fits : className = ['*'] ∨ className = e.className.toList
  nonempty : className ≠ []
  bracket : '[' ∉ className

/-- A text is written as a path, and asks for an element: two slashes are followed by a class or
    `*`, and possibly by the name of an attribute and its value between marks, in brackets. Blanks
    may stand around the whole, around the name, and around the marks. -/
inductive Names (text : List Char) (e : Element) : Prop where
  | ofClass {className : List Char} (hclass : OfClass className e)
      (hend : ∀ c, className.getLast? = some c → isBlank c = false)
      (htext : Padded (['/', '/'] ++ className) text)
  | ofAttribute {className name quoted : List Char} {known : String} {a : Attribute} {mark : Char}
      (hclass : OfClass className e) (hknown : known ∈ a.pathNames)
      (hname : Padded known.toList name) (hmark : mark = '\'' ∨ mark = '"')
      (hquoted : Padded (mark :: (e.get a).toList ++ [mark]) quoted)
      (htext : Padded
        (['/', '/'] ++ (className ++ ['['] ++ (['@'] ++ (name ++ ['='] ++ quoted ++ [']'])))) text)

end Path

/-- Whether an element is what a selector asks for. -/
def Selector.Fits (selector : Selector) (e : Element) : Prop :=
  match selector.kind.attribute? with
  | some a => e.get a = selector.value
  | none => Path.Names selector.value.toList e

namespace Attribute

theorem ofPathName?_eq_some_iff {name : String} {a : Attribute} :
    ofPathName? name = some a ↔ name ∈ a.pathNames := by
  constructor
  · intro h
    unfold ofPathName? at h
    split at h
    case h_9 => cases h
    all_goals
      cases h
      decide
  · intro h
    cases a with
    | text | bounds =>
      rw [pathNames, List.mem_singleton] at h
      rw [h]
      rfl
    | resourceId | contentDesc | className =>
      rcases List.mem_pair.mp h with rfl | rfl
      · rfl
      · rfl

/-- No name of an attribute has a blank at its ends or an equals sign in it. -/
theorem plain_of_mem_pathNames {name : String} {a : Attribute} (h : name ∈ a.pathNames) :
    Text.trim name.toList = name.toList ∧ '=' ∉ name.toList := by
  have hall : ∀ known ∈ a.pathNames,
      Text.trim known.toList = known.toList ∧ '=' ∉ known.toList := by
    cases a with
    | text | resourceId | contentDesc | className | bounds => decide
  exact hall name h

end Attribute

namespace Path

open Text

variable {text : String} {className name : List Char} {mark : Char} {cs value : List Char}

theorem unquote?_eq_some_iff : unquote? mark cs = some value ↔ cs = mark :: value ++ [mark] := by
  unfold unquote?
  rw [Option.bind_eq_some_iff]
  simp only [afterStart?_eq_some_iff, beforeEnd?_eq_some_iff]
  constructor
  · rintro ⟨rest, rfl, rfl⟩
    rfl
  · rintro rfl
    exact ⟨value ++ [mark], rfl, rfl⟩

/-- A value stands between two marks of either kind. -/
theorem unquote?_orElse_eq_some_iff :
    ((unquote? '\'' cs).orElse fun _ => unquote? '"' cs) = some value ↔
      ∃ mark, (mark = '\'' ∨ mark = '"') ∧ cs = mark :: value ++ [mark] := by
  cases hsingle : unquote? '\'' cs with
  | some other =>
    have hcs := unquote?_eq_some_iff.mp hsingle
    constructor
    · intro h
      cases h
      exact ⟨_, .inl rfl, hcs⟩
    · rintro ⟨mark, rfl | rfl, h⟩
      · rw [← hsingle, unquote?_eq_some_iff.mpr h]
        rfl
      · rw [hcs] at h
        exact absurd (List.cons.inj h).1 (by decide)
  | none =>
    constructor
    · intro h
      exact ⟨_, .inr rfl, unquote?_eq_some_iff.mp h⟩
    · rintro ⟨mark, rfl | rfl, h⟩
      · rw [unquote?_eq_some_iff.mpr h] at hsingle
        cases hsingle
      · exact unquote?_eq_some_iff.mpr h

/-- The first equals sign ends the name of the attribute, and the last bracket the condition. -/
theorem condition?_eq_some_iff {condition : String × String} :
    condition? cs = some condition ↔
      ∃ name quoted value mark, cs = ['@'] ++ (name ++ ['='] ++ quoted ++ [']']) ∧
        '=' ∉ name ∧ (mark = '\'' ∨ mark = '"') ∧ trim quoted = mark :: value ++ [mark] ∧
        condition = (String.ofList (trim name), String.ofList value) := by
  unfold condition?
  simp only [Option.bind_eq_bind, Option.bind_eq_some_iff, afterStart?_eq_some_iff,
    beforeEnd?_eq_some_iff, cut?_eq_some_iff (List.cons_ne_nil _ _), unquote?_orElse_eq_some_iff]
  constructor
  · rintro ⟨inner, ⟨rest, rfl, rfl⟩, ⟨name, quoted⟩, ⟨rfl, hfree⟩, value, ⟨mark, hmark, hquoted⟩,
      hcondition⟩
    have hequals : '=' ∉ name :=
      fun hmem => hfree.not_within ((List.singleton_infix_iff ..).mpr hmem)
    exact ⟨name, quoted, value, mark, rfl, hequals, hmark, hquoted,
      (Option.some.inj hcondition).symm⟩
  · rintro ⟨name, quoted, value, mark, rfl, hequals, hmark, hquoted, rfl⟩
    exact ⟨_, ⟨_, rfl, rfl⟩, (name, quoted), ⟨rfl, free_singleton hequals⟩, value,
      ⟨mark, hmark, hquoted⟩, rfl⟩

/-- What a class is read as. -/
def readClass (className : List Char) : Option String :=
  if className = ['*'] then none else some (String.ofList className)

/-- The first bracket ends the class; without one, the whole rest is the class. -/
theorem ofText?_eq_some_iff {p : Path} :
    ofText? text = some p ↔
      ∃ className, className ≠ [] ∧ '[' ∉ className ∧ p.className = readClass className ∧
        ((p.condition = none ∧ trim text.toList = ['/', '/'] ++ className) ∨
          ∃ inner condition, p.condition = some condition ∧ condition? inner = some condition ∧
            trim text.toList = ['/', '/'] ++ (className ++ ['['] ++ inner)) := by
  obtain ⟨pathClass, pathCondition⟩ := p
  have hmade : ∀ (className : List Char) (condition : Option (String × String)),
      (if className.isEmpty then none
        else some (⟨if className = ['*'] then none else some (String.ofList className),
          condition⟩ : Path)) = some ⟨pathClass, pathCondition⟩ ↔
      className ≠ [] ∧ pathClass = readClass className ∧ pathCondition = condition := by
    intro className condition
    cases className with
    | nil => simp
    | cons c cs => simp [readClass, eq_comm]
  unfold ofText?
  simp only [Option.bind_eq_bind, Option.bind_eq_some_iff, afterStart?_eq_some_iff]
  constructor
  · rintro ⟨rest, htext, hpath⟩
    cases hcut : cut? ['['] rest with
    | none =>
      rw [hcut] at hpath
      obtain ⟨hne, rfl, rfl⟩ := (hmade rest none).mp hpath
      have hbracket : '[' ∉ rest :=
        fun hmem => cut?_eq_none_iff.mp hcut ((List.singleton_infix_iff ..).mpr hmem)
      exact ⟨rest, hne, hbracket, rfl, .inl ⟨rfl, htext⟩⟩
    | some parts =>
      obtain ⟨before, inner⟩ := parts
      rw [hcut] at hpath
      obtain ⟨_, hread, hpath⟩ := Option.bind_eq_some_iff.mp hpath
      obtain ⟨c, hc, rfl⟩ := Option.map_eq_some_iff.mp hread
      obtain ⟨hne, rfl, rfl⟩ := (hmade before (some c)).mp hpath
      obtain ⟨rfl, hfree⟩ := (cut?_eq_some_iff (List.cons_ne_nil _ _)).mp hcut
      have hbracket : '[' ∉ before :=
        fun hmem => hfree.not_within ((List.singleton_infix_iff ..).mpr hmem)
      exact ⟨before, hne, hbracket, rfl, .inr ⟨inner, c, rfl, hc, htext⟩⟩
  · rintro ⟨className, hne, hbracket, hclass, ⟨hcondition, htext⟩ |
      ⟨inner, condition, hcondition, hinner, htext⟩⟩
    · refine ⟨className, htext, ?_⟩
      have hcut : cut? ['['] className = none :=
        cut?_eq_none_iff.mpr fun hwithin => hbracket (hwithin.subset (List.mem_singleton.mpr rfl))
      rw [hcut]
      exact (hmade ..).mpr ⟨hne, hclass, hcondition⟩
    · refine ⟨_, htext, ?_⟩
      have hcut : cut? ['['] (className ++ ['['] ++ inner) = some (className, inner) :=
        (cut?_eq_some_iff (List.cons_ne_nil _ _)).mpr ⟨rfl, free_singleton hbracket⟩
      rw [hcut]
      refine Option.bind_eq_some_iff.mpr ⟨(className, some condition), ?_, ?_⟩
      · rw [hinner]
        rfl
      · exact (hmade ..).mpr ⟨hne, hclass, hcondition⟩

/-- An element is of the class that is read. -/
theorem readClass_iff {e : Element} :
    (match readClass className with | none => true | some name => decide (e.className = name)) =
        true ↔ className = ['*'] ∨ className = e.className.toList := by
  unfold readClass
  by_cases hany : className = ['*']
  · simp [hany]
  · rw [if_neg hany]
    simp only [decide_eq_true_iff, hany, false_or]
    rw [← String.toList_inj, String.toList_ofList, eq_comm]

/-- The condition of a path is read, whatever the value is and whatever blanks there are. -/
theorem condition?_eq_some {quoted : List Char} {known : String} {a : Attribute}
    (hknown : known ∈ a.pathNames) (hname : Padded known.toList name)
    (hmark : mark = '\'' ∨ mark = '"') (hquoted : Padded (mark :: value ++ [mark]) quoted) :
    condition? (['@'] ++ (name ++ ['='] ++ quoted ++ [']'])) =
      some (known, String.ofList value) := by
  obtain ⟨hplain, hequals⟩ := Attribute.plain_of_mem_pathNames hknown
  have htrim : String.ofList (trim name) = known := by
    rw [hname.trim_eq, hplain, String.ofList_toList]
  have hfree : '=' ∉ name := by
    obtain ⟨before, after, hbefore, hafter, rfl⟩ := hname
    simp only [List.mem_append, not_or]
    exact ⟨⟨fun hmem => absurd (hbefore _ hmem) (by decide), hequals⟩,
      fun hmem => absurd (hafter _ hmem) (by decide)⟩
  have hblank : isBlank mark = false := by
    rcases hmark with rfl | rfl
    · decide
    · decide
  have hvalue := hquoted.trim_eq.trans (trim_cons_concat hblank hblank)
  rw [← htrim]
  exact condition?_eq_some_iff.mpr ⟨name, quoted, value, mark, rfl, hfree, hmark, hvalue, rfl⟩

/-- A path that ends in a class has no blanks at its ends if the class has none at its end. -/
theorem trim_slashes_class (hne : className ≠ [])
    (hend : ∀ c, className.getLast? = some c → isBlank c = false) :
    trim (['/', '/'] ++ className) = ['/', '/'] ++ className := by
  refine trim_eq_self_iff.mpr ⟨by simp; decide, fun last hlast => hend last ?_⟩
  rwa [List.getLast?_append_of_ne_nil _ hne] at hlast

/-- Nor has one that ends in a condition. -/
theorem trim_slashes_condition {inner : List Char} :
    trim (['/', '/'] ++ (className ++ ['['] ++ (['@'] ++ (inner ++ [']'])))) =
      ['/', '/'] ++ (className ++ ['['] ++ (['@'] ++ (inner ++ [']']))) := by
  have hends : ['/', '/'] ++ (className ++ ['['] ++ (['@'] ++ (inner ++ [']']))) =
      '/' :: ('/' :: className ++ ['[', '@'] ++ inner) ++ [']'] := by simp
  rw [hends]
  exact trim_cons_concat (by decide) (by decide)

/-- A path is read from a text, and admits an element, just when the text is written as a path and
    asks for the element. -/
theorem names_iff {e : Element} :
    Names text.toList e ↔ ∃ p, ofText? text = some p ∧ p.admits e = true := by
  constructor
  · rintro (@⟨className, hclass, hend, htext⟩ |
      @⟨className, name, quoted, known, a, mark, hclass, hknown, hname, hmark, hquoted, htext⟩)
    · have htrim := htext.trim_eq.trans (trim_slashes_class hclass.nonempty hend)
      refine ⟨⟨readClass className, none⟩, ofText?_eq_some_iff.mpr
        ⟨className, hclass.nonempty, hclass.bracket, rfl, .inl ⟨rfl, htrim⟩⟩, ?_⟩
      unfold admits
      rw [Bool.and_eq_true]
      exact ⟨readClass_iff.mpr hclass.fits, rfl⟩
    · have hread := condition?_eq_some hknown hname hmark hquoted
      rw [String.ofList_toList] at hread
      refine ⟨⟨readClass className, some (known, e.get a)⟩, ofText?_eq_some_iff.mpr
        ⟨className, hclass.nonempty, hclass.bracket, rfl, .inr ⟨_, _, rfl, hread, ?_⟩⟩, ?_⟩
      · exact htext.trim_eq.trans trim_slashes_condition
      · unfold admits
        rw [Bool.and_eq_true]
        refine ⟨readClass_iff.mpr hclass.fits, ?_⟩
        simp [Attribute.ofPathName?_eq_some_iff.mpr hknown]
  · rintro ⟨⟨pathClass, pathCondition⟩, hread, hadmits⟩
    obtain ⟨className, hne, hbracket, hclass, hrest⟩ := ofText?_eq_some_iff.mp hread
    unfold admits at hadmits
    rw [Bool.and_eq_true] at hadmits
    dsimp only at hclass hrest hadmits
    subst hclass
    have hofClass : OfClass className e := ⟨readClass_iff.mp hadmits.1, hne, hbracket⟩
    have hpadded := padded_trim text.toList
    rcases hrest with ⟨rfl, htext⟩ | ⟨inner, condition, rfl, hinner, htext⟩
    · rw [htext] at hpadded
      refine .ofClass hofClass (fun last hlast => ?_) hpadded
      refine (trim_eq_self_iff.mp (trim_trim text.toList)).2 last ?_
      rwa [htext, List.getLast?_append_of_ne_nil _ hne]
    · obtain ⟨name, quoted, value, mark, rfl, -, hmark, hquoted, rfl⟩ :=
        condition?_eq_some_iff.mp hinner
      rw [htext] at hpadded
      obtain ⟨a, ha, hvalue⟩ := Option.map_eq_some_iff.mp (of_decide_eq_true hadmits.2)
      have hname := padded_trim name
      have hquote := padded_trim quoted
      rw [hquoted] at hquote
      have hlist : value = (e.get a).toList := by rw [hvalue, String.toList_ofList]
      subst hlist
      exact .ofAttribute hofClass (Attribute.ofPathName?_eq_some_iff.mp ha)
        (by rwa [String.toList_ofList]) hmark hquote hpadded

end Path

namespace Path

open Text

/-- A path with a class and the value of an attribute between two marks, as it is written. -/
def written (className name : String) (mark : Char) (value : String) : String :=
  s!"//{className}[@{name}={mark}{value}{mark}]"

variable {className name value : String} {a : Attribute} {mark : Char}

theorem toList_written :
    (written className name mark value).toList =
      ['/', '/'] ++ (className.toList ++ ['['] ++
        (['@'] ++ (name.toList ++ ['='] ++ (mark :: value.toList ++ [mark]) ++ [']']))) := by
  simp [written, toString]

/-- A written path is read back. -/
theorem ofText?_written (hclass : className ≠ "") (hbracket : '[' ∉ className.toList)
    (hname : name ∈ a.pathNames) (hmark : mark = '\'' ∨ mark = '"') :
    ofText? (written className name mark value) =
      some ⟨readClass className.toList, some (name, value)⟩ := by
  have hread : condition? (['@'] ++ (name.toList ++ ['='] ++ (mark :: value.toList ++ [mark]) ++
      [']'])) = some (name, String.ofList value.toList) :=
    condition?_eq_some hname (.refl _) hmark (.refl _)
  rw [String.ofList_toList] at hread
  refine ofText?_eq_some_iff.mpr ⟨className.toList, mt String.toList_eq_nil_iff.mp hclass,
    hbracket, rfl, .inr ⟨_, _, rfl, hread, ?_⟩⟩
  rw [toList_written]
  exact trim_slashes_condition

/-- A path with nothing but a class is read back. -/
theorem ofText?_class (hclass : className ≠ "") (hbracket : '[' ∉ className.toList)
    (htrimmed : trimmed className = className) :
    ofText? s!"//{className}" = some ⟨readClass className.toList, none⟩ := by
  have htext : (s!"//{className}").toList = ['/', '/'] ++ className.toList := by
    simp [toString]
  have hends : trim className.toList = className.toList := by
    rw [← String.toList_inj] at htrimmed
    simpa [trimmed] using htrimmed
  have hne : className.toList ≠ [] := mt String.toList_eq_nil_iff.mp hclass
  refine ofText?_eq_some_iff.mpr ⟨className.toList, hne, hbracket, rfl, .inl ⟨rfl, ?_⟩⟩
  rw [htext]
  exact trim_slashes_class hne (trim_eq_self_iff.mp hends).2

theorem readClass_toList (className : String) :
    readClass className.toList = if className = "*" then none else some className := by
  have hany : className.toList = ['*'] ↔ className = "*" := by
    rw [← String.toList_inj]
    rfl
  unfold readClass
  simp only [hany, String.ofList_toList]

end Path

namespace Screen

variable {s : Screen} {className name value : String} {a : Attribute} {mark : Char}

theorem firstIn_first? {p : Element → Bool} {P : Element → Prop} (h : ∀ e, p e = true ↔ P e) :
    FirstIn s.nodes P (s.first? p) := by
  have heq : (p · = true) = P := funext fun e => propext (h e)
  exact heq ▸ firstIn_find? p s.nodes

/-- A selector that is not a path compares one attribute. -/
theorem find?_of_attribute? {kind : SelectorKind} (hkind : kind.attribute? = some a) :
    s.find? ⟨kind, value⟩ = s.first? (·.get a = value) := by
  cases kind with
  | text | resourceId | contentDesc | className =>
    cases hkind
    rfl
  | xpath => cases hkind

theorem findPath?_written (hclass : className ≠ "") (hbracket : '[' ∉ className.toList)
    (hname : name ∈ a.pathNames) (hmark : mark = '\'' ∨ mark = '"') :
    s.findPath? (Path.written className name mark value) =
      s.first? fun e => (className = "*" ∨ e.className = className) ∧ e.get a = value := by
  have hattribute := Attribute.ofPathName?_eq_some_iff.mpr hname
  rw [findPath?, Path.ofText?_written hclass hbracket hname hmark, Option.bind_some,
    Path.readClass_toList]
  congr 1
  funext e
  by_cases hany : className = "*"
  · simp [Path.admits, hany, hattribute]
  · simp [Path.admits, hany, hattribute]

theorem findPath?_class (hclass : className ≠ "") (hany : className ≠ "*")
    (hbracket : '[' ∉ className.toList) (htrimmed : Text.trimmed className = className) :
    s.findPath? s!"//{className}" = s.first? (·.className = className) := by
  rw [findPath?, Path.ofText?_class hclass hbracket htrimmed, Option.bind_some,
    Path.readClass_toList]
  congr 1
  funext e
  simp [Path.admits, hany]

/-- A selector of any kind finds the first element that it fits. -/
theorem firstIn_find?_selector (selector : Selector) :
    FirstIn s.nodes selector.Fits (s.find? selector) := by
  obtain ⟨kind, value⟩ := selector
  cases hattribute : kind.attribute? with
  | some a =>
    rw [find?_of_attribute? hattribute]
    refine firstIn_first? fun e => ?_
    simp only [Selector.Fits, hattribute, decide_eq_true_iff]
  | none =>
    have hkind : kind = .xpath := by
      cases kind with
      | text | resourceId | contentDesc | className => cases hattribute
      | xpath => rfl
    subst hkind
    show FirstIn s.nodes _ (s.findPath? value)
    unfold findPath?
    cases hpath : Path.ofText? value with
    | some path =>
      refine firstIn_first? fun e => ?_
      simp [Selector.Fits, hattribute, Path.names_iff, hpath]
    | none =>
      intro position e _
      simp [Selector.Fits, hattribute, Path.names_iff, hpath]

/-- How a screen is searched: the first element in document order is found, by selectors and by
    paths alike. -/
structure SearchesInOrder (s : Screen) : Prop where
  /-- A selector finds the first element whose attribute has exactly the value. -/
  selector : ∀ kind a value, SelectorKind.attribute? kind = some a →
    FirstIn s.nodes (fun e => e.get a = value) (s.find? ⟨kind, value⟩)
  /-- A path finds the first element of the class whose attribute has exactly the value. -/
  path : ∀ className a name mark value, className ≠ "" → '[' ∉ className.toList →
    name ∈ Attribute.pathNames a → mark = '\'' ∨ mark = '"' →
    FirstIn s.nodes (fun e => (className = "*" ∨ e.className = className) ∧ e.get a = value)
      (s.findPath? (Path.written className name mark value))
  /-- The search for an attribute can be written as a path, whatever the value. -/
  asPath : ∀ kind a name mark value, SelectorKind.attribute? kind = some a →
    name ∈ a.pathNames → mark = '\'' ∨ mark = '"' →
    s.find? ⟨kind, value⟩ = s.findPath? (Path.written "*" name mark value)
  /-- So can the search for a class, without a condition. -/
  asClass : ∀ className, className ≠ "" → className ≠ "*" → '[' ∉ className.toList →
    Text.trimmed className = className →
    s.find? ⟨.className, className⟩ = s.findPath? s!"//{className}"
  /-- A selector that is a path searches by it. -/
  byPath : ∀ text, s.find? ⟨.xpath, text⟩ = s.findPath? text

/-- Every search finds the first element in document order that it asks for, and none when there is
    none. -/
theorem searches_in_order (s : Screen) : s.SearchesInOrder where
  selector kind a value hkind := by
    rw [find?_of_attribute? hkind]
    exact firstIn_first? fun e => decide_eq_true_iff
  path className a name mark value hclass hbracket hname hmark := by
    rw [findPath?_written hclass hbracket hname hmark]
    exact firstIn_first? fun e => decide_eq_true_iff
  asPath kind a name mark value hkind hname hmark := by
    rw [find?_of_attribute? hkind, findPath?_written (by decide) (by decide) hname hmark]
    simp
  asClass className hclass hany hbracket htrimmed := by
    rw [find?_of_attribute? rfl, findPath?_class hclass hany hbracket htrimmed]
    rfl
  byPath text := rfl

/-- A button inside the first frame and a label behind it have the same id. The button comes first,
    and the id reads like the end of a path. -/
theorem searches_in_order_frames :
    let button : Element := ⟨"ok", "'] = [\"", "", "Button", ""⟩
    let s : Screen := ⟨[⟨⟨"", "", "", "Frame", ""⟩, [⟨button, []⟩]⟩,
      ⟨⟨"", button.resourceId, "", "Label", ""⟩, []⟩]⟩
    s.find? ⟨.resourceId, button.resourceId⟩ = some button ∧
      s.find? ⟨.resourceId, button.resourceId⟩ =
        s.findPath? (Path.written "*" "resource-id" '\'' button.resourceId) ∧
      s.findPath? (Path.written "Label" "resource-id" '"' button.resourceId) ≠ some button ∧
      s.find? ⟨.className, "Button"⟩ = s.findPath? "//Button" ∧
      FirstIn s.nodes (fun e => e.get .resourceId = button.resourceId) (some button) := by
  intro button s
  have hfound : s.find? ⟨.resourceId, button.resourceId⟩ = some button := by decide +kernel
  refine ⟨hfound, ?_, by decide +kernel, ?_, ?_⟩
  · exact (searches_in_order s).asPath .resourceId .resourceId "resource-id" '\''
      button.resourceId rfl (.head _) (.inl rfl)
  · exact (searches_in_order s).asClass "Button" (by decide) (by decide) (by decide)
      (by decide +kernel)
  · exact hfound ▸ (searches_in_order s).selector .resourceId .resourceId button.resourceId rfl

end Screen

end DeviceFlow
