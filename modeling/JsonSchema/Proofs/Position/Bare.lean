import JsonSchema.Proofs.Position.Translation

namespace JsonSchema

variable {j child : Json} {key : String} {place : Pointer} {tokens : List String}

namespace Json

mutual
-- A document without the texts of its references.
def bare : Json → Json
  | array items   => array (bareItems items)
  | object fields => object (bareFields fields)
  | scalar        => scalar

def bareItems : List Json → List Json
  | []        => []
  | j :: rest => bare j :: bareItems rest

def bareFields : Fields → Fields
  | []             => []
  | (k, j) :: rest =>
    (k, if k = "$ref" ∧ j.asString?.isSome then string "" else bare j) :: bareFields rest
end

def bareAt (key : String) (j : Json) : Json :=
  if key = "$ref" ∧ j.asString?.isSome then string "" else j.bare

theorem bareAt_of_ne (h : key ≠ "$ref") : bareAt key j = j.bare :=
  if_neg fun hk => h hk.left

theorem bareAt_cases (key : String) (j : Json) :
    bareAt key j = j.bare ∨ ∃ text, j = string text ∧ bareAt key j = string "" := by
  unfold bareAt
  split
  case isFalse   => exact .inl rfl
  case isTrue hk =>
    cases j <;> simp [asString?] at hk
    exact .inr ⟨_, rfl, rfl⟩

theorem bareItems_eq_map (items : List Json) : bareItems items = items.map bare := by
  induction items with
  | nil            => rfl
  | cons j rest ih => rw [bareItems, ih, List.map_cons]

theorem bareFields_eq_map (fields : Fields) :
    bareFields fields = fields.map fun (k, j) => (k, bareAt k j) := by
  induction fields with
  | nil => rfl
  | cons field rest ih =>
    rw [bareFields, ih, List.map_cons]
    rfl

theorem field?_bare (j : Json) (key : String) :
    j.bare.field? key = (j.field? key).map (bareAt key) := by
  cases j <;> simp only [bare, field?, asObject?, Option.bind_none, Option.bind_some, Option.map_none]
  case object fields => rw [bareFields_eq_map, Fields.get?_map]

theorem field?_bare_of_ne (j : Json) (h : key ≠ "$ref") :
    j.bare.field? key = (j.field? key).map bare := by
  rw [field?_bare]
  congr 1
  funext i
  exact bareAt_of_ne h

theorem step?_bare (j : Json) (token : String) :
    j.bare.step? token = (j.step? token).map (bareAt token) := by
  cases j <;> simp only [bare, step?, Option.map_none]
  case object fields => rw [bareFields_eq_map, Fields.get?_map]
  case array items =>
    cases hi : Pointer.index? token with
    | none => rfl
    | some i =>
      have ht : token ≠ "$ref" := by
        rintro rfl
        have : Pointer.index? "$ref" = none := by decide +kernel
        simp [this] at hi
      simp only [Option.bind_some, bareItems_eq_map, List.getElem?_map]
      congr 1
      funext i
      exact (bareAt_of_ne ht).symm

theorem bareAt_object (key : String) (fields : Fields) :
    bareAt key (object fields) = object (bareFields fields) := by
  simp [bareAt, asString?, bare]

theorem bareAt_array (key : String) (items : List Json) :
    bareAt key (array items) = array (bareItems items) := by
  simp [bareAt, asString?, bare]

theorem bareFields_insert {fields : Fields} {changed : Json} (hs : Fields.Sorted fields)
    (hc : Fields.get? fields key = some child) (h : bareAt key changed = bareAt key child) :
    bareFields (Fields.insert key changed fields) = bareFields fields := by
  simp only [bareFields_eq_map]
  refine (hs.of_keys_eq (Fields.keys_map bareAt fields)).ext ?_ fun other => ?_
  · rw [Fields.keys_map, Fields.keys_map, hs.keys_insert changed (by simp [hc])]
  · rw [Fields.get?_map, Fields.get?_map, Fields.get?_insert]
    split
    case isFalse   => rfl
    case isTrue ho => simp [← ho, hc, h]

mutual
theorem places_bare (place : Pointer) :
    (j : Json) → (j.bare.nodes place).map (·.1) = (j.nodes place).map (·.1)
  | array items   => congrArg (place :: ·) (placesOfItems_bare place 0 items)
  | object fields => congrArg (place :: ·) (placesOfFields_bare place fields)
  | null | bool _ | number _ | string _ => rfl

theorem placesOfItems_bare (place : Pointer) (index : Nat) :
    (items : List Json) → (nodesOfItems place index (bareItems items)).map (·.1) =
      (nodesOfItems place index items).map (·.1)
  | []        => rfl
  | j :: rest => by
    simp only [bareItems, nodesOfItems, List.map_append, places_bare _ j, placesOfItems_bare _ _ rest]

theorem placesOfFields_bare (place : Pointer) :
    (fields : Fields) → (nodesOfFields place (bareFields fields)).map (·.1) =
      (nodesOfFields place fields).map (·.1)
  | []             => rfl
  | (k, j) :: rest => by
    have hj : ((bareAt k j).nodes (place.child k)).map (·.1) = (j.nodes (place.child k)).map (·.1) := by
      cases bareAt_cases k j
      case inl hb => rw [hb, places_bare _ j]
      case inr hb =>
        obtain ⟨text, rfl, hb⟩ := hb
        rw [hb]
        rfl
    have hk : bareFields ((k, j) :: rest) = (k, bareAt k j) :: bareFields rest := rfl
    simp only [hk, nodesOfFields, List.map_append, hj, placesOfFields_bare _ rest]
end

end Json

namespace Position

open Json

-- A text has no parts, and which text it is makes no difference.
theorem dataAlong?_string (text other : String) (place : Pointer) (tokens : List String) :
    dataAlong? (string text) place tokens = dataAlong? (string other) place tokens := by
  cases tokens with
  | nil => rfl
  | cons => simp [dataAlong?.eq_def, field?, asObject?]

theorem dataAlong?_bareAt (h : dataAlong? j.bare place tokens = dataAlong? j place tokens)
    (key : String) : dataAlong? (bareAt key j) place tokens = dataAlong? j place tokens := by
  cases bareAt_cases key j
  case inl hb => rw [hb, h]
  case inr hb =>
    obtain ⟨text, rfl, hb⟩ := hb
    rw [hb, dataAlong?_string]

theorem properties_bare (j : Json) (key : String) :
    (j.bare.field? "properties").bind (·.field? key) =
      ((j.field? "properties").bind (·.field? key)).map (bareAt key) := by
  rw [field?_bare_of_ne j (by decide)]
  cases j.field? "properties" with
  | none            => rfl
  | some properties => exact field?_bare properties key

theorem member?_bare (items : List Json) (token : String) :
    member? (bareItems items) token = (member? items token).map bare := by
  simp only [member?, bareItems_eq_map]
  cases Pointer.index? token <;> simp

theorem branches_bare (j : Json) {keyword : String} (h : sharesPosition keyword = true) :
    (j.bare.field? keyword).bind asArray? = ((j.field? keyword).bind asArray?).map bareItems := by
  have hne : keyword ≠ "$ref" := by
    rintro rfl
    simp [sharesPosition] at h
  rw [field?_bare_of_ne j hne]
  cases j.field? keyword with
  | none       => rfl
  | some value => cases value <;> rfl

-- The cases in which there is a part are those of the steps to parts; everywhere else there is none in the
-- bare schema, too.
theorem dataAlong?_bare (j : Json) (place : Pointer) (tokens : List String) :
    dataAlong? j.bare place tokens = dataAlong? j place tokens := by
  have hitems (j : Json) := field?_bare_of_ne j (show "items" ≠ "$ref" by decide)
  have hextra (j : Json) := field?_bare_of_ne j (show "additionalItems" ≠ "$ref" by decide)
  fun_induction dataAlong? j place tokens with
  | case1 => rfl
  | case3 j place key rest child hp ih =>
    rw [dataAlong?.eq_def]
    simp only [↓reduceIte, properties_bare, hp, Option.map_some]
    exact dataAlong?_bareAt ih key
  | case4 j place key rest hp =>
    rw [dataAlong?.eq_def]
    simp only [↓reduceIte, properties_bare, hp, Option.map_none]
  | case9 j place items rest hn hc hi _ ih =>
    rw [dataAlong?.eq_def]
    simp only [hitems, hi, Option.map_some, reduceIte, String.reduceEq]
    cases items
    case array tuple =>
      cases rest with
      | nil  => exact (hn tuple rfl rfl).elim
      | cons => exact (hc tuple _ _ rfl rfl).elim
    all_goals exact ih
  | case13 j place keyword hp hi ha hs index rest branch hb ih =>
    rw [dataAlong?.eq_def]
    obtain ⟨branches, hf, hm⟩ := Option.bind_eq_some_iff.mp hb
    simp only [hp, hi, ha, hs, branches_bare, hf, member?_bare, hm, reduceIte, Option.map_some,
      Option.bind_some]
    exact ih
  | case14 j place keyword hp hi ha hs index rest hb =>
    rw [dataAlong?.eq_def]
    simp only [hp, hi, ha, hs, branches_bare, reduceIte]
    cases hf : (j.field? keyword).bind asArray? with
    | none          => rfl
    | some branches =>
      rw [hf] at hb
      simp only [Option.map_some, Option.bind_some, member?_bare] at hb ⊢
      rw [hb, Option.map_none]
  | _ =>
    rw [dataAlong?.eq_def]
    simp_all [member?_bare, bare]

end Position

end JsonSchema
