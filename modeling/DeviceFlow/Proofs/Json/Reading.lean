import DeviceFlow.Document.Json.Reader
import DeviceFlow.Proofs.Definition.Bearing
import DeviceFlow.Proofs.Json.Token

/-!
# JSON, written and read

The reader is followed through the text of a value, piece by piece: its state after the text of a
value is the one in which the tree of the value has just been finished. So the text of every value
whose integers fit into 64 bits is read as a tree that bears the value.
-/

namespace DeviceFlow.Document.Json

variable {cs rest : List Char} {c : Char} {s : State} {t : Token} {frames outer : List Frame}
  {level : Nat}

/-! ## Pieces of a text -/

/-- The machine after a text. -/
def feed (s : State) (cs : List Char) : Option State :=
  (tokens? cs).bind fun tokens => tokens.foldlM State.step s

theorem feed_nil (s : State) : feed s [] = some s := by
  unfold feed tokens?
  rfl

theorem feed_blank (h : isBlank c = true) : feed s (c :: cs) = feed s cs := by
  unfold feed
  rw [tokens?, if_pos h]

/-- A token that has been read is taken by the machine. -/
theorem feed_token (h : token? (c :: cs) = some (t, rest)) (hblank : isBlank c = false)
    (hlength : rest.length ≤ cs.length) :
    feed s (c :: cs) = (s.step t).bind fun s => feed s rest := by
  have hshorter : rest.length < (c :: cs).length := Nat.lt_succ_of_le hlength
  unfold feed
  rw [tokens?, if_neg (by simp [hblank]), h]
  simp only [dif_pos hshorter]
  cases tokens? rest with
  | none =>
    cases s.step t with
    | none => rfl
    | some s' => rfl
  | some tokens => rfl

/-- A mark of one character is a token of its own. -/
theorem feed_mark (h : token? (c :: cs) = some (t, cs)) (hblank : isBlank c = false) :
    feed s (c :: cs) = (s.step t).bind fun s => feed s cs :=
  feed_token h hblank (Nat.le_refl _)

theorem feed_lineBreak (level : Nat) (cs : List Char) :
    feed s ((lineBreak level).toList ++ cs) = feed s cs := by
  have hblanks : ∀ n, feed s (List.replicate n ' ' ++ cs) = feed s cs := by
    intro n
    induction n with
    | zero => rfl
    | succ n ih => rw [List.replicate_succ, List.cons_append, feed_blank rfl, ih]
  unfold lineBreak
  rw [String.toList_ofList, List.cons_append, feed_blank rfl, hblanks]

theorem feed_quoted (text : String) (cs : List Char) :
    feed s ((quoted text).toList ++ cs) =
      (s.step (.text (some text))).bind fun s => feed s cs := by
  have htoken := token?_quoted text cs
  have htext : (quoted text).toList = '"' :: (text.toList.flatMap escaped ++ ['"']) := by
    simp [quoted]
  rw [htext, List.cons_append] at htoken ⊢
  exact feed_token htoken rfl (by simp; omega)

theorem feed_null : feed s ("null".toList ++ cs) =
    (s.step (.scalar (plainScalar .null))).bind fun s => feed s cs :=
  feed_token (token?_word "null" .null cs rfl) rfl (by simp; omega)

theorem feed_bool (b : Bool) : feed s ((if b then "true" else "false").toList ++ cs) =
    (s.step (.scalar (plainScalar (.bool b)))).bind fun s => feed s cs := by
  cases b with
  | true => exact feed_token (token?_word "true" (.bool true) cs rfl) rfl (by simp; omega)
  | false => exact feed_token (token?_word "false" (.bool false) cs rfl) rfl (by simp; omega)

theorem feed_int {i : Int} (hi : Holds64 i) (h : Ends cs) :
    feed s ((toString i).toList ++ cs) =
      (s.step (.scalar (integerScalar i))).bind fun s => feed s cs := by
  have htoken := token?_int hi h
  obtain ⟨c, ds, hds, hc⟩ := exists_toString_int_eq_cons i
  have hblank : isBlank c = false := by
    rcases hc with hdigit | rfl
    · cases hblank : isBlank c with
      | false => rfl
      | true =>
        simp only [isBlank, Bool.or_eq_true, decide_eq_true_eq] at hblank
        rcases hblank with ((rfl | rfl) | rfl) | rfl
        all_goals cases hdigit
    · rfl
  rw [hds, List.cons_append] at htoken ⊢
  exact feed_token htoken hblank (by simp)

/-! ## The tree of a value -/

mutual

/-- The tree that a value is read as. -/
def nodeOf : Value → Node
  | .null => .scalar (plainScalar .null)
  | .bool b => .scalar (plainScalar (.bool b))
  | .int i => .scalar (integerScalar i)
  | .text s => .scalar (textScalar (some s))
  | .list items => .list false (nodesOf items)
  | .table entries => .table false (entryNodesOf entries)

def nodesOf : List Value → List Node
  | [] => []
  | v :: rest => nodeOf v :: nodesOf rest

def entryNodesOf : List (String × Value) → List (Node × Node)
  | [] => []
  | (key, v) :: rest => (.scalar (textScalar (some key)), nodeOf v) :: entryNodesOf rest

end

mutual

/-- Every integer of a value fits into 64 bits. -/
def Fits : Value → Prop
  | .int i => Holds64 i
  | .null | .bool _ | .text _ => True
  | .list items => ItemsFit items
  | .table entries => EntriesFit entries

def ItemsFit : List Value → Prop
  | [] => True
  | v :: rest => Fits v ∧ ItemsFit rest

def EntriesFit : List (String × Value) → Prop
  | [] => True
  | (_, v) :: rest => Fits v ∧ EntriesFit rest

end

theorem bears_integerScalar {i : Int} (hi : Holds64 i) :
    (integerScalar i).bears (.int i) = true := by
  have hbounds : -(Decimal.twoTo 63 : Int) ≤ i ∧ i < Decimal.twoTo 64 := hi
  unfold integerScalar
  rw [if_pos hbounds]
  simp +contextual [Scalar.bears]

theorem bears_textScalar (s : String) : (textScalar (some s)).bears (.text s) = true := by
  simp [textScalar, Scalar.bears]

mutual

theorem bears_nodeOf : (v : Value) → Fits v → (nodeOf v).bears v = true
  | .null, _ => rfl
  | .bool b, _ => by simp [nodeOf, Node.bears, Scalar.bears, plainScalar]
  | .int i, h => bears_integerScalar h
  | .text s, _ => bears_textScalar s
  | .list items, h => itemsBear_nodesOf items h
  | .table entries, h => entriesBear_entryNodesOf entries h

theorem itemsBear_nodesOf : (items : List Value) → ItemsFit items →
    Node.itemsBear (nodesOf items) items = true
  | [], _ => rfl
  | v :: rest, h => by
    have hfirst := bears_nodeOf v h.1
    have hrest := itemsBear_nodesOf rest h.2
    simp [nodesOf, Node.itemsBear, hfirst, hrest]

theorem entriesBear_entryNodesOf : (entries : List (String × Value)) → EntriesFit entries →
    Node.entriesBear (entryNodesOf entries) entries = true
  | [], _ => rfl
  | (key, v) :: rest, h => by
    have hkey : Node.bears (.scalar (textScalar (some key))) (.text key) = true :=
      bears_textScalar key
    have hfirst := bears_nodeOf v h.1
    have hrest := entriesBear_entryNodesOf rest h.2
    simp [entryNodesOf, Node.entriesBear, hkey, hfirst, hrest]

end

/-! ## Whole values -/

/-- The machine waits for a value. -/
def AwaitsValue (e : Expectation) : Prop := e = .value ∨ e = .firstValue

/-- The machine waits for the key of an entry. -/
def AwaitsKey (e : Expectation) : Prop := e = .key ∨ e = .firstKey

theorem step_scalar {e : Expectation} (he : AwaitsValue e) (v : Scalar) :
    State.step ⟨frames, e, none⟩ (.scalar v) = State.push frames (.scalar v) := by
  rcases he with rfl | rfl
  · rfl
  · rfl

theorem step_text {e : Expectation} (he : AwaitsValue e) (v : Option String) :
    State.step ⟨frames, e, none⟩ (.text v) = State.push frames (.scalar (textScalar v)) := by
  rcases he with rfl | rfl
  · rfl
  · rfl

theorem step_listOpen {e : Expectation} (he : AwaitsValue e) :
    State.step ⟨frames, e, none⟩ .listOpen = some ⟨.list [] :: frames, .firstValue, none⟩ := by
  rcases he with rfl | rfl
  · rfl
  · rfl

theorem step_tableOpen {e : Expectation} (he : AwaitsValue e) :
    State.step ⟨frames, e, none⟩ .tableOpen = some ⟨.table [] :: frames, .firstKey, none⟩ := by
  rcases he with rfl | rfl
  · rfl
  · rfl

theorem step_key {e : Expectation} (he : AwaitsKey e) (entries : List (Node × Node))
    (v : Option String) :
    State.step ⟨.table entries :: outer, e, none⟩ (.text v) =
      some ⟨.entry entries (.scalar (textScalar v)) :: outer, .colon, none⟩ := by
  rcases he with rfl | rfl
  · rfl
  · rfl

theorem ends_lineBreak (level : Nat) (cs : List Char) : Ends ((lineBreak level).toList ++ cs) := by
  unfold lineBreak
  rw [String.toList_ofList]
  intro c hc
  exact .inr (Option.some.inj hc).symm

theorem ends_comma (cs : List Char) : Ends (',' :: cs) := by
  intro c hc
  exact .inl (Option.some.inj hc).symm

/-- What stands between two items: a comma and a line break. -/
def gap (level : Nat) : String := "," ++ lineBreak level

theorem toList_gap (level : Nat) (cs : List Char) :
    (gap level).toList ++ cs = ',' :: ((lineBreak level).toList ++ cs) := by
  simp [gap]

/-- Items between marks stand on lines of their own. -/
theorem toList_enclose {left right : String} {l r : Char} {items : List String}
    (hleft : left.toList = [l]) (hright : right.toList = [r]) (hitems : items ≠ [])
    (rest : List Char) :
    (enclose left right level items).toList ++ rest =
      l :: ((lineBreak (level + 1)).toList ++
        ((String.intercalate (gap (level + 1)) items).toList ++
          ((lineBreak level).toList ++ r :: rest))) := by
  simp [enclose, hitems, gap, hleft, hright]

/-- A key and the colon after it. -/
theorem feed_entry {e : Expectation} {done : List (Node × Node)} {key : String} (he : AwaitsKey e) :
    feed ⟨.table done :: outer, e, none⟩ ((quoted key).toList ++ ':' :: ' ' :: cs) =
      feed ⟨.entry done (.scalar (textScalar (some key))) :: outer, .value, none⟩ cs := by
  rw [feed_quoted, step_key he, Option.bind_some, feed_mark (t := .colon) rfl rfl]
  simp only [State.step, Option.bind_some]
  rw [feed_blank rfl]

mutual

/-- After the text of a value the machine has finished the tree of the value. -/
theorem feed_pretty {frames : List Frame} {e : Expectation} {rest : List Char} (level : Nat)
    (he : AwaitsValue e) (hrest : Ends rest) : (v : Value) → Fits v →
    feed ⟨frames, e, none⟩ ((pretty level v).toList ++ rest) =
      (State.push frames (nodeOf v)).bind fun s => feed s rest
  | .null, _ => by
    unfold pretty nodeOf
    rw [feed_null, step_scalar he]
  | .bool b, _ => by
    unfold pretty nodeOf
    rw [feed_bool, step_scalar he]
  | .int i, h => by
    unfold pretty nodeOf
    rw [feed_int h hrest, step_scalar he]
  | .text s, _ => by
    unfold pretty nodeOf
    rw [feed_quoted, step_text he]
  | .list [], _ => by
    have htext : (pretty level (.list [])).toList ++ rest = '[' :: ']' :: rest := by
      simp [pretty, prettyItems, enclose]
    rw [htext, feed_mark (t := .listOpen) rfl rfl, step_listOpen he, Option.bind_some,
      feed_mark (t := .listClose) rfl rfl]
    rfl
  | .list (v :: items), h => by
    rw [pretty, toList_enclose (l := '[') (r := ']') rfl rfl (by nofun),
      feed_mark (t := .listOpen) rfl rfl, step_listOpen he, Option.bind_some, feed_lineBreak,
      feed_items (level + 1) (.inr rfl) (ends_lineBreak level _) (v :: items) (by nofun) h,
      feed_lineBreak, feed_mark (t := .listClose) rfl rfl]
    simp [State.step, nodeOf]
  | .table [], _ => by
    have htext : (pretty level (.table [])).toList ++ rest = '\x7b' :: '\x7d' :: rest := by
      simp [pretty, prettyEntries, enclose]
    rw [htext, feed_mark (t := .tableOpen) rfl rfl, step_tableOpen he, Option.bind_some,
      feed_mark (t := .tableClose) rfl rfl]
    rfl
  | .table ((key, v) :: entries), h => by
    rw [pretty, toList_enclose (l := '\x7b') (r := '\x7d') rfl rfl (by nofun),
      feed_mark (t := .tableOpen) rfl rfl, step_tableOpen he, Option.bind_some, feed_lineBreak,
      feed_entries (level + 1) (.inr rfl) (ends_lineBreak level _) ((key, v) :: entries) (by nofun)
        h, feed_lineBreak, feed_mark (t := .tableClose) rfl rfl]
    simp [State.step, nodeOf]

theorem feed_items {outer : List Frame} {e : Expectation} {rest : List Char} {done : List Node}
    (level : Nat) (he : AwaitsValue e) (hrest : Ends rest) : (items : List Value) → items ≠ [] →
    ItemsFit items →
    feed ⟨.list done :: outer, e, none⟩
        ((String.intercalate (gap level) (prettyItems level items)).toList ++ rest) =
      feed ⟨.list ((nodesOf items).reverse ++ done) :: outer, .separator, none⟩ rest
  | [], hne, _ => absurd rfl hne
  | [v], _, h => by
    rw [prettyItems, prettyItems, String.intercalate_singleton, feed_pretty level he hrest v h.1]
    rfl
  | v :: v' :: items, _, h => by
    have htext : (String.intercalate (gap level) (prettyItems level (v :: v' :: items))).toList ++
        rest = (pretty level v).toList ++ ',' :: ((lineBreak level).toList ++
          ((String.intercalate (gap level) (prettyItems level (v' :: items))).toList ++ rest)) := by
      rw [prettyItems, prettyItems, String.intercalate_cons_cons, String.toList_append,
        String.toList_append, List.append_assoc, List.append_assoc, toList_gap]
    rw [htext, feed_pretty level he (ends_comma _) v h.1]
    simp only [State.push, Option.bind_some]
    rw [feed_mark (t := .comma) rfl rfl]
    simp only [State.step, Option.bind_some]
    rw [feed_lineBreak, feed_items level (.inl rfl) hrest (v' :: items) (by nofun) h.2]
    simp [nodesOf]

theorem feed_entries {outer : List Frame} {e : Expectation} {rest : List Char}
    {done : List (Node × Node)} (level : Nat) (he : AwaitsKey e) (hrest : Ends rest) :
    (entries : List (String × Value)) → entries ≠ [] → EntriesFit entries →
    feed ⟨.table done :: outer, e, none⟩
        ((String.intercalate (gap level) (prettyEntries level entries)).toList ++ rest) =
      feed ⟨.table ((entryNodesOf entries).reverse ++ done) :: outer, .separator, none⟩ rest
  | [], hne, _ => absurd rfl hne
  | [(key, v)], _, h => by
    have htext : (String.intercalate (gap level) (prettyEntries level [(key, v)])).toList ++ rest =
        (quoted key).toList ++ ':' :: ' ' :: ((pretty level v).toList ++ rest) := by
      simp [prettyEntries]
    rw [htext, feed_entry he, feed_pretty level (.inl rfl) hrest v h.1]
    rfl
  | (key, v) :: (key', v') :: entries, _, h => by
    have htext : (String.intercalate (gap level)
        (prettyEntries level ((key, v) :: (key', v') :: entries))).toList ++ rest =
        (quoted key).toList ++ ':' :: ' ' :: ((pretty level v).toList ++
          ',' :: ((lineBreak level).toList ++ ((String.intercalate (gap level)
            (prettyEntries level ((key', v') :: entries))).toList ++ rest))) := by
      rw [prettyEntries, prettyEntries, String.intercalate_cons_cons]
      simp [gap]
    rw [htext, feed_entry he, feed_pretty level (.inl rfl) (ends_comma _) v h.1]
    simp only [State.push, Option.bind_some]
    rw [feed_mark (t := .comma) rfl rfl]
    simp only [State.step, Option.bind_some]
    rw [feed_lineBreak,
      feed_entries level (.inl rfl) hrest ((key', v') :: entries) (by nofun) h.2]
    simp [entryNodesOf]

end

/-- The text of a value whose integers fit into 64 bits is read as a tree that bears the value. -/
theorem readsBack {v : Value} (h : Fits v) : ReadsBack .json v := by
  have hfeed : feed .start (write v).toList =
      some ⟨[], .separator, some (nodeOf v)⟩ := by
    have hpretty : feed ⟨[], .value, none⟩ ((pretty 0 v).toList ++ []) =
        (State.push [] (nodeOf v)).bind fun s => feed s [] :=
      feed_pretty 0 (.inl rfl) (by nofun) v h
    rw [List.append_nil] at hpretty
    rw [show State.start = ⟨[], .value, none⟩ from rfl, write, hpretty]
    simp [State.push, feed_nil]
  obtain ⟨tokens, htokens, hfold⟩ := Option.bind_eq_some_iff.mp hfeed
  have hread : read? (write v) = some ⟨.json, nodeOf v, #[]⟩ := by
    unfold read?
    simp [htokens, hfold]
  exact ⟨_, hread, rfl, rfl, bears_nodeOf v h⟩

end DeviceFlow.Document.Json
