import JsonSchema.Proofs.Json.Modify
import JsonSchema.Proofs.Pointer.Within

namespace JsonSchema.Json

-- A node has no place for a step; `rest` are the steps after it. An array has one behind its items, but
-- only for the last step.
inductive Obstructs (token : String) (rest : List String) : Json → Prop
  | scalar {j} : j.isScalar = true → j ≠ null → Obstructs token rest j
  | array {items} :
      token ≠ Pointer.anyIndex →
      (∀ i, Pointer.index? token = some i → items.length ≤ i ∧ (rest = [] → items.length < i)) →
      Obstructs token rest (array items)

-- What comes of writing along a path, by the first step: whether the value is written, and the tree.
inductive Writes (value : Json) : List String → Json → Bool → Json → Prop
  | node {j} : Writes value [] j true value
  | field {token rest j fields done child} :
      j.orObject = object fields →
      Writes value rest ((Fields.get? fields token).getD null) done child →
      Writes value (token :: rest) j done (object (Fields.insert token child fields))
  | item {token rest items i item done child} :
      Pointer.index? token = some i → items[i]? = some item → Writes value rest item done child →
      Writes value (token :: rest) (array items) done (array (items.set i child))
  | newItem {token rest items done child} :
      token = Pointer.anyIndex ∨ rest = [] ∧ Pointer.index? token = some items.length →
      Writes value rest null done child →
      Writes value (token :: rest) (array items) done (array (items ++ [child]))
  | refused {token rest j} : Obstructs token rest j → Writes value (token :: rest) j false j

variable {value j written : Json} {token : String} {path rest other : List String} {done : Bool}

theorem orObject_eq_object {fields : Fields} (h : j.orObject = object fields) :
    j = object fields ∨ j = null ∧ fields = [] := by
  cases j <;> simp_all [orObject]

theorem step?_of_orObject {fields : Fields} (h : j.orObject = object fields) (token : String) :
    j.step? token = Fields.get? fields token := by
  rcases orObject_eq_object h with rfl | ⟨rfl, rfl⟩ <;> rfl

theorem eq_object_of_get? {fields : Fields} {found : Json} (h : j.orObject = object fields)
    (hf : Fields.get? fields token = some found) : j = object fields := by
  rcases orObject_eq_object h with rfl | ⟨_, rfl⟩
  case inl => rfl
  case inr => cases hf

theorem index?_anyIndex : Pointer.index? Pointer.anyIndex = none := by
  decide

-- The last step of a path is as the others, but that it may be the index behind the items.
theorem setAlong_array (value : Json) (token : String) (rest : List String) (items : List Json) :
    setAlong value (token :: rest) (array items) =
      if token = Pointer.anyIndex then
        ((setAlong value rest null).1, array (items ++ [(setAlong value rest null).2]))
      else
        match Pointer.index? token with
        | some i =>
          match items[i]? with
          | some item =>
            ((setAlong value rest item).1, array (items.set i (setAlong value rest item).2))
          | none =>
            if rest = [] ∧ i = items.length then (true, array (items ++ [value]))
            else (false, array items)
        | none => (false, array items) := by
  by_cases ht : token = Pointer.anyIndex
  case pos => cases rest <;> simp [setAlong, setStep?, orObject, ht]
  case neg =>
    simp only [if_neg ht]
    cases hi : Pointer.index? token with
    | none   => cases rest <;> simp [setAlong, setStep?, orObject, ht, hi]
    | some i =>
      cases rest with
      | cons => cases hitem : items[i]? <;> simp [setAlong, orObject, ht, hi, hitem]
      | nil =>
        simp only [setAlong, setStep?, orObject, if_neg ht, hi]
        rcases Nat.lt_trichotomy i items.length with h | rfl | h
        · simp [h]
        · simp
        · simp [Nat.lt_asymm h, Nat.ne_of_gt h]

theorem setAlong_of_orObject {fields : Fields} (h : j.orObject = object fields) :
    setAlong value (token :: rest) j =
      let written := setAlong value rest ((Fields.get? fields token).getD null)
      (written.1, object (Fields.insert token written.2 fields)) := by
  cases rest <;> simp [setAlong, h, setStep?]

theorem setAlong_of_isScalar (h : j.isScalar = true) (hn : j ≠ null) :
    setAlong value (token :: rest) j = (false, j) := by
  cases rest <;> cases j <;> simp_all [setAlong, setStep?, orObject, isScalar]

theorem writes_setAlong (value : Json) (path : List String) (j : Json) :
    Writes value path j (setAlong value path j).1 (setAlong value path j).2 := by
  induction path generalizing j with
  | nil => exact .node
  | cons token rest ih =>
    cases j
    case null | object =>
      rw [setAlong_of_orObject rfl]
      exact .field rfl (ih _)
    case bool | number | string =>
      rw [setAlong_of_isScalar rfl (by simp)]
      exact .refused (.scalar rfl (by simp))
    case array items =>
      rw [setAlong_array]
      split
      case isTrue ht => exact .newItem (.inl ht) (ih null)
      case isFalse ht =>
        split
        case h_2 hi => exact .refused (.array ht (by simp [hi]))
        case h_1 i hi =>
          split
          case h_1 item hitem => exact .item hi hitem (ih item)
          case h_2 hitem =>
            have hl := List.getElem?_eq_none_iff.mp hitem
            split
            case isTrue hr =>
              obtain ⟨rfl, rfl⟩ := hr
              exact .newItem (.inr ⟨rfl, hi⟩) .node
            case isFalse hr =>
              refine .refused (.array ht fun k hk => ?_)
              obtain rfl := Option.some.inj (hi.symm.trans hk)
              exact ⟨hl, fun hn => Nat.lt_of_le_of_ne hl fun he => hr ⟨hn, he.symm⟩⟩

theorem Writes.of_null (h : Writes value path null done written) : done = true := by
  induction path generalizing written with
  | nil => cases h; rfl
  | cons token rest ih =>
    cases h
    case field fields child ho hw =>
      obtain rfl : fields = [] := (orObject_eq_object ho).elim (by simp) (·.right)
      exact ih hw
    case refused ho =>
      cases ho
      case scalar hn => exact absurd rfl hn

theorem Writes.eq_of_refused (h : Writes value path j false written) (hw : j.WellFormed) :
    written = j := by
  generalize hd : false = done at h
  induction h with
  | node => cases hd
  | @field token rest j fields done child ho h ih =>
    cases hc : Fields.get? fields token with
    | none =>
      rw [hc] at h
      cases hd.trans h.of_null
    | some found =>
      rw [hc] at ih
      obtain rfl := eq_object_of_get? ho hc
      rw [ih (hw.get? hc) hd, Option.getD_some, (wellFormed_object.mp hw).left.insert_get? hc]
  | item hi hitem _ ih =>
    have ⟨hl, he⟩ := List.getElem?_eq_some_iff.mp hitem
    rw [ih (wellFormed_array.mp hw _ (List.mem_of_getElem? hitem)) hd, ← he, List.set_getElem_self]
  | newItem _ h => cases hd.trans h.of_null
  | refused     => rfl

-- A path meets a node that is there and has no place for the next step.
def Obstructed (path : List String) (j : Json) : Prop :=
  ∃ front token rest found,
    path = front ++ token :: rest ∧ j.follow? front = some found ∧ Obstructs token rest found

theorem obstructed_cons :
    Obstructed (token :: rest) j ↔
      Obstructs token rest j ∨ ∃ child, j.step? token = some child ∧ Obstructed rest child := by
  constructor
  case mp =>
    rintro ⟨front, t, back, found, hp, hf, ho⟩
    cases front with
    | nil =>
      cases hp
      cases hf
      exact .inl ho
    | cons first front =>
      cases hp
      obtain ⟨child, hc, hf⟩ := Option.bind_eq_some_iff.mp hf
      exact .inr ⟨child, hc, front, t, back, found, rfl, hf, ho⟩
  case mpr =>
    rintro (ho | ⟨child, hc, front, t, back, found, rfl, hf, ho⟩)
    · exact ⟨[], token, rest, j, rfl, rfl, ho⟩
    · exact ⟨token :: front, t, back, found, rfl, by simp [follow?, hc, hf], ho⟩

theorem not_obstructed_null : ¬ Obstructed path null := by
  cases path with
  | nil => simp [Obstructed]
  | cons =>
    rw [obstructed_cons]
    rintro (ho | ⟨_, hc, _⟩)
    · cases ho
      case scalar hn => exact hn rfl
    · cases hc

theorem not_obstructs_of_orObject {fields : Fields} (h : j.orObject = object fields) :
    ¬ Obstructs token rest j := by
  rintro (⟨hs, hn⟩ | _)
  case scalar => rcases orObject_eq_object h with rfl | ⟨rfl, _⟩ <;> simp_all [isScalar]
  case array  => cases h

theorem obstructs_array {items : List Json} :
    Obstructs token rest (array items) ↔
      token ≠ Pointer.anyIndex ∧
        ∀ i, Pointer.index? token = some i → items.length ≤ i ∧ (rest = [] → items.length < i) := by
  constructor
  case mpr => exact fun ⟨ht, hi⟩ => .array ht hi
  case mp =>
    intro h
    cases h
    case scalar hs _ => cases hs
    case array ht hi => exact ⟨ht, hi⟩

theorem step?_of_obstructs (h : Obstructs token rest j) : j.step? token = none := by
  cases h
  case scalar hs _ => cases j <;> simp_all [isScalar, step?]
  case array items _ hi =>
    refine Option.bind_eq_none_iff.mpr fun i hk => ?_
    exact List.getElem?_eq_none (hi i hk).left

theorem step?_newItem {items : List Json}
    (h : token = Pointer.anyIndex ∨ rest = [] ∧ Pointer.index? token = some items.length) :
    (array items).step? token = none := by
  rcases h with rfl | ⟨_, hi⟩
  case inl => simp [step?, index?_anyIndex]
  case inr => simp [step?, hi]

theorem step?_item {items : List Json} {i : Nat} {item : Json} (hi : Pointer.index? token = some i)
    (hitem : items[i]? = some item) : (array items).step? token = some item := by
  simp [step?, hi, hitem]

theorem Writes.refused_iff (h : Writes value path j done written) :
    done = false ↔ Obstructed path j := by
  induction h with
  | node => simp [Obstructed]
  | @field token _ _ fields _ _ ho _ ih =>
    rw [ih, obstructed_cons, step?_of_orObject ho, or_iff_right (not_obstructs_of_orObject ho)]
    cases Fields.get? fields token <;> simp [not_obstructed_null]
  | item hi hitem _ ih =>
    have hs := step?_item hi hitem
    rw [ih, obstructed_cons, hs, or_iff_right fun ho => by simp [step?_of_obstructs ho] at hs]
    simp
  | newItem ht h _ =>
    obtain rfl := h.of_null
    rw [obstructed_cons, step?_newItem ht, obstructs_array]
    rcases ht with rfl | ⟨rfl, hi⟩ <;> simp_all
  | refused ho => simp [obstructed_cons, ho]

-- The step that leads to what is written by a step: a new item has an index of its own.
def placeStep (token : String) : Json → String
  | array items => if token = Pointer.anyIndex then Pointer.ofIndex items.length else token
  | _           => token

-- The path that leads to a value after it is written along a path.
def placeAlong : List String → Json → List String
  | [], _            => []
  | token :: rest, j => placeStep token j :: placeAlong rest ((j.step? token).getD null)

def placeOf (p : Pointer) (j : Json) : Pointer := ⟨placeAlong p.tokens j⟩

-- The items of every array are counted by a word, so that each has a step that leads to it.
def Counted (j : Json) : Prop :=
  ∀ path items, j.follow? path = some (array items) → items.length < UInt64.size

theorem Counted.step? {child : Json} (h : j.Counted) (hc : j.step? token = some child) :
    child.Counted :=
  fun path items hf => h (token :: path) items (by simp [follow?, hc, hf])

theorem counted_null : Counted null := by
  intro path items h
  cases path <;> cases h

theorem Counted.getD_step? (h : j.Counted) : ((j.step? token).getD null).Counted := by
  cases hc : j.step? token with
  | none       => exact counted_null
  | some child => exact h.step? hc

theorem counted_of_nodes
    (h : (j.nodes .root).all fun entry => (entry.2.asArray?.getD []).length < UInt64.size) :
    j.Counted := by
  intro path items hf
  have hm : (⟨path⟩, array items) ∈ j.nodes .root := mem_nodes_of_get? hf
  simpa [asArray?] using of_decide_eq_true (List.all_eq_true.mp h _ hm)

theorem placeStep_of_ne (h : token ≠ Pointer.anyIndex) (j : Json) : placeStep token j = token := by
  cases j
  case array => exact if_neg h
  all_goals rfl

theorem step?_placeStep (token : String) (j : Json) : j.step? (placeStep token j) = j.step? token := by
  cases j
  case array items =>
    simp only [placeStep]
    split
    case isFalse => rfl
    case isTrue h =>
      rw [h, @step?_newItem _ [] items (.inl rfl)]
      refine Option.bind_eq_none_iff.mpr fun i hi => ?_
      obtain rfl := Pointer.ofIndex_injective (Pointer.eq_ofIndex_of_index? hi)
      simp
  all_goals rfl

-- A step writes what it leads to, where nothing counts as null. All other steps lead where they led.
theorem Writes.step (h : Writes value (token :: rest) j true written) (hc : j.Counted) :
    ∃ child, Writes value rest ((j.step? token).getD null) true child ∧
      ∀ first, written.step? first = if first = placeStep token j then some child else j.step? first := by
  cases h
  case field fields child ho h =>
    have ht : placeStep token j = token := by
      rcases orObject_eq_object ho with rfl | ⟨rfl, _⟩ <;> rfl
    refine ⟨child, by rwa [step?_of_orObject ho], fun first => ?_⟩
    rw [ht, step?_of_orObject ho, step?, Fields.get?_insert]
    simp only [eq_comm]
  case item items i item child hitem hi h =>
    have hl := (List.getElem?_eq_some_iff.mp hitem).choose
    have hn : token ≠ Pointer.anyIndex := by
      rintro rfl
      simp [index?_anyIndex] at hi
    have ht := placeStep_of_ne hn (array items)
    refine ⟨child, by rwa [step?_item hi hitem], fun first => ?_⟩
    rw [ht]
    split
    case isTrue he => simp [he, step?, hi, hl]
    case isFalse he =>
      refine Option.bind_congr fun k hk => List.getElem?_set_ne ?_
      rintro rfl
      exact he ((Pointer.eq_ofIndex_of_index? hk).trans (Pointer.eq_ofIndex_of_index? hi).symm)
  case newItem items child ht h =>
    have hp : placeStep token (array items) = Pointer.ofIndex items.length := by
      simp only [placeStep]
      split
      case isTrue    => rfl
      case isFalse hn => exact Pointer.eq_ofIndex_of_index? (ht.resolve_left hn).right
    refine ⟨child, by rwa [step?_newItem ht], fun first => ?_⟩
    rw [hp]
    split
    case isTrue he => simp [he, step?, Pointer.index?_ofIndex (hc [] items rfl)]
    case isFalse he =>
      refine Option.bind_congr fun k hk => ?_
      have hne : k ≠ items.length := by
        rintro rfl
        exact he (Pointer.eq_ofIndex_of_index? hk)
      rcases Nat.lt_or_gt_of_ne hne with hlt | hgt
      · exact List.getElem?_append_left hlt
      · rw [List.getElem?_eq_none (by simp; omega), List.getElem?_eq_none (Nat.le_of_lt hgt)]

theorem Writes.follow?_place (h : Writes value path j true written) (hc : j.Counted) :
    written.follow? (placeAlong path j) = some value := by
  induction path generalizing j written with
  | nil => cases h; rfl
  | cons token rest ih =>
    obtain ⟨child, hw, hs⟩ := h.step hc
    rw [placeAlong, follow?, hs, if_pos rfl]
    exact ih hw hc.getD_step?

theorem follow?_getD_null {found : Option Json} (h : path ≠ []) :
    (found.getD null).follow? path = found.bind (·.follow? path) := by
  cases found with
  | some => rfl
  | none =>
    cases path with
    | nil  => exact absurd rfl h
    | cons => rfl

theorem Writes.follow?_apart (h : Writes value path j true written) (hc : j.Counted)
    (hp : ¬ placeAlong path j <+: other) (ho : ¬ other <+: placeAlong path j) :
    written.follow? other = j.follow? other := by
  induction path generalizing j written other with
  | nil => exact absurd List.nil_prefix hp
  | cons token rest ih =>
    cases other with
    | nil => exact absurd List.nil_prefix ho
    | cons first tail =>
      obtain ⟨child, hw, hs⟩ := h.step hc
      rw [placeAlong, List.cons_prefix_cons] at hp ho
      rw [follow?, follow?, hs]
      split
      case isFalse => rfl
      case isTrue he =>
        have hn : tail ≠ [] := fun hn => ho ⟨he, hn ▸ List.nil_prefix⟩
        have hi := ih hw hc.getD_step? (fun hr => hp ⟨he.symm, hr⟩) (fun hr => ho ⟨he, hr⟩)
        rw [Option.bind_some, hi, he, step?_placeStep, follow?_getD_null hn]

theorem Writes.modifyAlong? (h : Writes value path j done written) (hf : (j.follow? path).isSome) :
    done = true ∧ modifyAlong? (fun _ => value) path j = some written := by
  induction h with
  | node => exact ⟨rfl, rfl⟩
  | @field token rest j fields _ child ho _ ih =>
    rw [follow?, step?_of_orObject ho] at hf
    cases hc : Fields.get? fields token with
    | none => simp [hc] at hf
    | some found =>
      obtain rfl := eq_object_of_get? ho hc
      rw [hc] at ih hf
      obtain ⟨hd, hm⟩ := ih hf
      rw [Option.getD_some] at hm
      exact ⟨hd, by simp [Json.modifyAlong?, hc, hm]⟩
  | item hi hitem _ ih =>
    rw [follow?, step?_item hi hitem] at hf
    obtain ⟨hd, hm⟩ := ih hf
    exact ⟨hd, by simp [Json.modifyAlong?, hi, hitem, hm]⟩
  | newItem ht => simp [follow?, step?_newItem ht] at hf
  | refused ho => simp [follow?, step?_of_obstructs ho] at hf

def rows : Json :=
  object [("name", string "points"), ("rows", array [object [("x", ofNat 1)], null])]

theorem set_all_or_nothing {p : Pointer} (hw : j.WellFormed) :
    ((j.set p value).1 = false → (j.set p value).2 = j) ∧
      ((j.set p value).1 = false ↔ Obstructed p.tokens j) := by
  have h := writes_setAlong value p.tokens j
  constructor
  case right => exact h.refused_iff
  case left =>
    intro hf
    rw [set] at hf
    rw [hf] at h
    exact h.eq_of_refused hw

-- The path is obstructed behind the items, as a step is left there.
theorem set_all_or_nothing_rows :
    let p : Pointer := ⟨["rows", "2", "x"]⟩
    rows.WellFormed ∧ (rows.set p (ofNat 5)).1 = false ∧
      ((rows.set p (ofNat 5)).1 = false → (rows.set p (ofNat 5)).2 = rows) ∧
      ((rows.set p (ofNat 5)).1 = false ↔ Obstructed p.tokens rows) := by
  have hw : rows.WellFormed := by decide
  exact ⟨hw, by decide, set_all_or_nothing hw⟩

theorem set_one_place {p : Pointer} (hc : j.Counted) :
    ((j.set p value).1 = true →
      (j.set p value).2.get? (placeOf p j) = some value ∧
      ∀ q : Pointer, q.isWithin (placeOf p j) = false → (placeOf p j).isWithin q = false →
        (j.set p value).2.get? q = j.get? q) ∧
    (∀ f, (j.modify? p f).isSome = (j.get? p).isSome) ∧
    ((j.get? p).isSome → (j.set p value).1 = true ∧ j.replace? p value = some (j.set p value).2) := by
  have h := writes_setAlong value p.tokens j
  refine ⟨fun ht => ?_, fun f => modifyAlong?_isSome p.tokens j, h.modifyAlong?⟩
  rw [set] at ht
  rw [ht] at h
  refine ⟨h.follow?_place hc, fun q hq hp => h.follow?_apart hc (fun hr => ?_) (fun hr => ?_)⟩
  case refine_1 => exact Bool.false_ne_true (hq.symm.trans (Pointer.isWithin_iff.mpr hr))
  case refine_2 => exact Bool.false_ne_true (hp.symm.trans (Pointer.isWithin_iff.mpr hr))

-- The new item is the third one, and the fields of an object that is made for it are beside its place.
theorem set_one_place_rows :
    let p : Pointer := ⟨["rows", "-", "x"]⟩
    rows.Counted ∧ (rows.set p (ofNat 5)).1 = true ∧ placeOf p rows = ⟨["rows", "2", "x"]⟩ ∧
      ((rows.set p (ofNat 5)).1 = true →
        (rows.set p (ofNat 5)).2.get? (placeOf p rows) = some (ofNat 5) ∧
        ∀ q : Pointer, q.isWithin (placeOf p rows) = false → (placeOf p rows).isWithin q = false →
          (rows.set p (ofNat 5)).2.get? q = rows.get? q) ∧
      (∀ f, (rows.modify? p f).isSome = (rows.get? p).isSome) ∧
      ((rows.get? p).isSome →
        (rows.set p (ofNat 5)).1 = true ∧ rows.replace? p (ofNat 5) = some (rows.set p (ofNat 5)).2) := by
  have hc : rows.Counted := counted_of_nodes (by decide)
  exact ⟨hc, by decide, by decide, set_one_place hc⟩

end JsonSchema.Json
