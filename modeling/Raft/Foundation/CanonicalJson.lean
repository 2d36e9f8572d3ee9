import Raft.Foundation.JsonText

/-!
# Canonical JSON texts

A value is rendered with the keys of every object in a fixed order.  On values
without `undefined` the text determines the value up to the order of keys,
whatever the order that the renderer sorts them in.
-/

namespace Raft.Foundation

/-! ## Rendering -/

def isDefined : JsValue → Bool
  | .undefined => false
  | _ => true

def entryText (entry : JsString × JsString) : JsString := jsonQuote entry.1 ++ js ":" ++ entry.2

section Rendering

-- how `JSON.stringify` spells a number, and the order of the keys
variable (numberText : JsNumber → JsString) (order : JsString → JsString → Bool)

mutual

def canonicalText : JsValue → JsString
  | .undefined | .null => js "null"
  | .boolean value => if value then js "true" else js "false"
  | .number value => numberText value
  | .string value => jsonQuote value
  | .array items => jsonArray (itemTexts items)
  | .object fields =>
      js "\x7b" ++ joined entryText (sortBy order (fieldTexts fields)) ++ js "\x7d"

def itemTexts : List JsValue → List JsString
  | [] => []
  | item :: items => canonicalText item :: itemTexts items

/-- The defined entries with their values rendered; the sort reads only the keys. -/
def fieldTexts : JsObject → List (JsString × JsString)
  | [] => []
  | (key, value) :: fields =>
      if isDefined value then (key, canonicalText value) :: fieldTexts fields
      else fieldTexts fields

end

end Rendering

/-! ## Reading the rendering back -/

inductive JsonValued (numbers : Set JsNumber) : JsValue → Prop
  | null : JsonValued numbers .null
  | boolean (value : Bool) : JsonValued numbers (.boolean value)
  | number {value : JsNumber} (h : value ∈ numbers) : JsonValued numbers (.number value)
  | string (value : JsString) : JsonValued numbers (.string value)
  | array {items : List JsValue} (h : ∀ item ∈ items, JsonValued numbers item) :
      JsonValued numbers (.array items)
  | object {fields : JsObject} (hkeys : (fields.map Prod.fst).Nodup)
      (h : ∀ field ∈ fields, JsonValued numbers field.2) : JsonValued numbers (.object fields)

structure NumberTexts (numberText : JsNumber → JsString) (numbers : Set JsNumber) : Prop where
  injective : Set.InjOn numberText numbers
  spelled : ∀ number ∈ numbers, isNumberText (numberText number) = true

def safeCounters : Set JsNumber := {number | ∃ n ≤ maxSafeInteger, number = JsNumber.ofNat n}

/-- The texts of the safe counters; other numbers are not spelled out. -/
def counterText : JsNumber → JsString
  | .finite value => decimalText value.num.toNat
  | .negativeZero => js "0"
  | .nan | .infinity _ => js "null"

theorem counterText_ofNat (n : Nat) : counterText (.ofNat n) = decimalText n := by
  rw [JsNumber.ofNat, counterText, Rat.num_natCast, Int.toNat_natCast]

theorem numberTexts_counterText : NumberTexts counterText safeCounters where
  injective := by
    rintro first ⟨n, -, rfl⟩ second ⟨m, -, rfl⟩ h
    rw [counterText_ofNat, counterText_ofNat] at h
    rw [← decimalValue_decimalText n, h, decimalValue_decimalText]
  spelled := by
    rintro number ⟨n, -, rfl⟩
    have hcanonical := isCanonicalDecimal_decimalText n
    have hdigits := isCanonicalDecimal_all hcanonical
    rw [counterText_ofNat]
    cases htext : decimalText n with
    | nil => exact absurd htext (isCanonicalDecimal_ne_nil hcanonical)
    | cons unit rest =>
        rw [htext, List.all_cons, Bool.and_eq_true, List.all_eq_true] at hdigits
        have hrest : rest.all isNumberUnit = true :=
          List.all_eq_true.mpr fun digit hmem => by simp [isNumberUnit, hdigits.2 digit hmem]
        simp [isNumberText, hdigits.1, hrest]

def SameUpToKeys (value other : JsValue) : Prop := value.sortKeys = other.sortKeys

inductive TextKind where
  | null | boolean | number | string | array | object

def kind : JsValue → TextKind
  | .undefined | .null => .null
  | .boolean _ => .boolean
  | .number _ => .number
  | .string _ => .string
  | .array _ => .array
  | .object _ => .object

def openingKind (unit : CodeUnit) : TextKind :=
  if unit = 0x6E then .null
  else if unit = 0x74 || unit = 0x66 then .boolean
  else if unit = 0x22 then .string
  else if unit = 0x5B then .array
  else if unit = 0x7B then .object
  else .number

section Reading

variable {numberText : JsNumber → JsString} {order : JsString → JsString → Bool}
  {numbers : Set JsNumber}

theorem itemTexts_eq (items : List JsValue) :
    itemTexts numberText order items = items.map (canonicalText numberText order) := by
  induction items with
  | nil => rfl
  | cons item items ih => rw [itemTexts, ih, List.map_cons]

theorem fieldTexts_eq (fields : JsObject) :
    fieldTexts numberText order fields =
      (fields.filter fun field => isDefined field.2).map fun field =>
        (field.1, canonicalText numberText order field.2) := by
  induction fields with
  | nil => rfl
  | cons field fields ih =>
      rw [fieldTexts, ih, List.filter_cons]
      split
      · rw [List.map_cons]
      · rfl

theorem opening_of_isNumberText {text : JsString} (h : isNumberText text = true) :
    ∃ unit rest, text = unit :: rest ∧ isDelimiter unit = false ∧ openingKind unit = .number := by
  cases text with
  | nil => cases h
  | cons unit rest =>
      refine ⟨unit, rest, rfl, ?_⟩
      simp only [isNumberText, isDigit, Bool.and_eq_true, Bool.or_eq_true,
        decide_eq_true_eq] at h
      have hval : 0x2D ≤ unit.val ∧ unit.val ≤ 0x39 := by
        rcases h.1 with hdigit | rfl
        · omega
        · decide
      have hne (code : CodeUnit) (hcode : code.val < 0x2D ∨ 0x39 < code.val) : unit ≠ code := by
        rintro rfl
        omega
      constructor
      · simp [isDelimiter, hne 0x2C (by decide), hne 0x5D (by decide), hne 0x7D (by decide)]
      · simp [openingKind, hne 0x6E (by decide), hne 0x74 (by decide), hne 0x66 (by decide),
          hne 0x22 (by decide), hne 0x5B (by decide), hne 0x7B (by decide)]

theorem opening_of_jsonValued (htexts : NumberTexts numberText numbers) {value : JsValue}
    (h : JsonValued numbers value) :
    ∃ unit rest, canonicalText numberText order value = unit :: rest ∧ isDelimiter unit = false ∧
      openingKind unit = kind value := by
  cases h with
  | null => exact ⟨0x6E, _, rfl, rfl, rfl⟩
  | boolean value => cases value <;> exact ⟨_, _, rfl, rfl, rfl⟩
  | number hmem => exact opening_of_isNumberText (htexts.spelled _ hmem)
  | string value => exact ⟨0x22, _, rfl, rfl, rfl⟩
  | array _ => exact ⟨0x5B, _, rfl, rfl, rfl⟩
  | object _ _ => exact ⟨0x7B, _, rfl, rfl, rfl⟩

theorem SameUpToKeys.array {items others : List JsValue}
    (h : List.Forall₂ SameUpToKeys items others) : SameUpToKeys (.array items) (.array others) := by
  have hmap : items.map JsValue.sortKeys = others.map JsValue.sortKeys := by
    rw [← List.forall₂_eq_eq_eq, List.forall₂_map_left_iff, List.forall₂_map_right_iff]
    exact h
  rw [SameUpToKeys, JsValue.sortKeys, JsValue.sortKeys, JsValue.sortItems_eq,
    JsValue.sortItems_eq, hmap]

def SameEntry (entry other : JsString × JsValue) : Prop :=
  entry.1 = other.1 ∧ SameUpToKeys entry.2 other.2

theorem SameUpToKeys.object {fields others : JsObject} (hkeys : (fields.map Prod.fst).Nodup)
    (h : List.Forall₂ SameEntry (sortBy order fields) (sortBy order others)) :
    SameUpToKeys (.object fields) (.object others) := by
  have hmap : (sortBy order fields).map (fun field => (field.1, field.2.sortKeys)) =
      (sortBy order others).map fun field => (field.1, field.2.sortKeys) := by
    rw [← List.forall₂_eq_eq_eq, List.forall₂_map_left_iff, List.forall₂_map_right_iff]
    exact h.imp fun _ _ hentry => Prod.ext hentry.1 hentry.2
  have hperm : (fields.map fun field => (field.1, field.2.sortKeys)).Perm
      (others.map fun field => (field.1, field.2.sortKeys)) :=
    ((perm_sortBy order fields).symm.map _).trans
      (hmap ▸ (perm_sortBy order others).map _)
  have hsorted := sortEntries_eq_of_perm hperm (by rwa [List.map_map])
  rw [SameUpToKeys, JsValue.sortKeys, JsValue.sortKeys, JsValue.sortFields_eq,
    JsValue.sortFields_eq, hsorted]

def fieldText (numberText : JsNumber → JsString) (order : JsString → JsString → Bool)
    (field : JsString × JsValue) : JsString :=
  jsonQuote field.1 ++ js ":" ++ canonicalText numberText order field.2

theorem canonicalText_object {fields : JsObject}
    (h : ∀ field ∈ fields, isDefined field.2 = true) :
    canonicalText numberText order (.object fields) =
      js "\x7b" ++ joined (fieldText numberText order) (sortBy order fields) ++ js "\x7d" := by
  have hmap : sortBy order (fields.map fun field =>
      (field.1, canonicalText numberText order field.2)) = (sortBy order fields).map fun field =>
        (field.1, canonicalText numberText order field.2) := sortBy_map _ _ _
  rw [canonicalText, fieldTexts_eq, List.filter_eq_self.mpr h, hmap, joined, joined,
    List.map_map]
  rfl

theorem JsonValued.isDefined {value : JsValue} (h : JsonValued numbers value) :
    isDefined value = true := by
  cases h with
  | null | boolean _ | number _ | string _ | array _ | object _ _ => rfl

theorem JsonValued.opened (htexts : NumberTexts numberText numbers) {value : JsValue}
    (h : JsonValued numbers value) : Opened (canonicalText numberText order) value := by
  obtain ⟨unit, rest, htext, hunit, -⟩ := opening_of_jsonValued htexts h
  exact ⟨unit, rest, htext, hunit⟩

theorem kind_eq_of_append_eq (htexts : NumberTexts numberText numbers) {value other : JsValue}
    (hvalue : JsonValued numbers value) (hother : JsonValued numbers other)
    {tail tail' : JsString}
    (h : canonicalText numberText order value ++ tail = canonicalText numberText order other ++
      tail') :
    kind value = kind other := by
  obtain ⟨unit, rest, htext, -, hkind⟩ := opening_of_jsonValued htexts hvalue
  obtain ⟨unit', rest', htext', -, hkind'⟩ := opening_of_jsonValued htexts hother
  rw [htext, htext'] at h
  rw [← hkind, ← hkind', (List.cons.inj h).1]

theorem selfDelimiting_items (htexts : NumberTexts numberText numbers) {items others : List JsValue}
    (hitems : ∀ item ∈ items, JsonValued numbers item ∧
      SelfDelimiting (canonicalText numberText order) (JsonValued numbers) SameUpToKeys item)
    (hothers : ∀ other ∈ others, JsonValued numbers other) {tail tail' : JsString}
    (h : canonicalText numberText order (.array items) ++ tail =
      canonicalText numberText order (.array others) ++ tail') :
    SameUpToKeys (.array items) (.array others) ∧ tail = tail' := by
  have htext (items : List JsValue) (tail : JsString) :
      canonicalText numberText order (.array items) ++ tail =
        0x5B :: (joined (canonicalText numberText order) items ++ 0x5D :: tail) := by
    have hopen : js "[" = [0x5B] := rfl
    have hclose : js "]" = [0x5D] := rfl
    simp [canonicalText, itemTexts_eq, jsonArray, joined, hopen, hclose]
  rw [htext, htext] at h
  obtain ⟨hsame, htail⟩ := joined_injective (by decide) (by decide)
    (fun item hmem => ⟨(hitems item hmem).2, (hitems item hmem).1.opened htexts⟩)
    (fun other hmem => ⟨hothers other hmem, (hothers other hmem).opened htexts⟩)
    (List.cons.inj h).2
  exact ⟨SameUpToKeys.array hsame, htail⟩

theorem selfDelimiting_entry {entry : JsString × JsValue}
    (h : SelfDelimiting (canonicalText numberText order) (JsonValued numbers)
      SameUpToKeys entry.2) :
    SelfDelimiting (fieldText numberText order) (fun entry => JsonValued numbers entry.2) SameEntry
      entry := by
  intro other hother tail tail' htail htail' heq
  simp only [fieldText, List.append_assoc] at heq
  obtain ⟨hkey, hrest⟩ := jsonQuote_injective heq
  obtain ⟨hvalue, htail⟩ := h other.2 hother tail tail' htail htail' (List.append_cancel_left hrest)
  exact ⟨⟨hkey, hvalue⟩, htail⟩

theorem selfDelimiting_fields {fields others : JsObject} (hkeys : (fields.map Prod.fst).Nodup)
    (hfields : ∀ field ∈ fields, JsonValued numbers field.2 ∧
      SelfDelimiting (canonicalText numberText order) (JsonValued numbers) SameUpToKeys field.2)
    (hothers : ∀ other ∈ others, JsonValued numbers other.2) {tail tail' : JsString}
    (h : canonicalText numberText order (.object fields) ++ tail =
      canonicalText numberText order (.object others) ++ tail') :
    SameUpToKeys (.object fields) (.object others) ∧ tail = tail' := by
  have htext {fields : JsObject} (hfields : ∀ field ∈ fields, JsonValued numbers field.2)
      (tail : JsString) : canonicalText numberText order (.object fields) ++ tail =
        0x7B :: (joined (fieldText numberText order) (sortBy order fields) ++ 0x7D :: tail) := by
    have hopen : js "\x7b" = [0x7B] := rfl
    have hclose : js "\x7d" = [0x7D] := rfl
    simp [canonicalText_object fun field hmem => (hfields field hmem).isDefined, hopen, hclose]
  have hentry (entry : JsString × JsValue) : Opened (fieldText numberText order) entry :=
    ⟨0x22, _, rfl, rfl⟩
  rw [htext fun field hmem => (hfields field hmem).1, htext hothers] at h
  obtain ⟨hsame, htail⟩ := joined_injective (by decide) (by decide)
    (fun entry hmem =>
      ⟨selfDelimiting_entry (hfields entry ((perm_sortBy order _).mem_iff.mp hmem)).2,
        hentry entry⟩)
    (fun other hmem => ⟨hothers other ((perm_sortBy order _).mem_iff.mp hmem), hentry other⟩)
    (List.cons.inj h).2
  exact ⟨SameUpToKeys.object hkeys hsame, htail⟩

theorem selfDelimiting_canonicalText (htexts : NumberTexts numberText numbers) {value : JsValue}
    (h : JsonValued numbers value) :
    SelfDelimiting (canonicalText numberText order) (JsonValued numbers) SameUpToKeys value := by
  induction h with
  | null =>
      intro other hother tail tail' _ _ heq
      have hkind := kind_eq_of_append_eq htexts .null hother heq
      cases hother with
      | null => exact ⟨rfl, List.append_cancel_left heq⟩
      | boolean _ | number _ | string _ | array _ | object _ _ => cases hkind
  | boolean value =>
      intro other hother tail tail' _ _ heq
      have hkind := kind_eq_of_append_eq htexts (.boolean value) hother heq
      cases hother with
      | boolean value' =>
          by_cases hvalue : value = value'
          · subst hvalue
            exact ⟨rfl, List.append_cancel_left heq⟩
          · cases value <;> cases value'
            all_goals first
              | exact absurd rfl hvalue
              | exact absurd (List.cons.inj heq).1 (by decide)
      | null | number _ | string _ | array _ | object _ _ => cases hkind
  | number hmem =>
      intro other hother tail tail' htail htail' heq
      have hkind := kind_eq_of_append_eq htexts (.number hmem) hother heq
      cases hother with
      | number hmem' =>
          obtain ⟨htext, htail⟩ := numberUnits_injective (isNumberText_all (htexts.spelled _ hmem))
            (isNumberText_all (htexts.spelled _ hmem')) htail htail' heq
          rw [htexts.injective hmem hmem' htext]
          exact ⟨rfl, htail⟩
      | null | boolean _ | string _ | array _ | object _ _ => cases hkind
  | string value =>
      intro other hother tail tail' _ _ heq
      have hkind := kind_eq_of_append_eq htexts (.string value) hother heq
      cases hother with
      | string value' =>
          obtain ⟨rfl, htail⟩ := jsonQuote_injective heq
          exact ⟨rfl, htail⟩
      | null | boolean _ | number _ | array _ | object _ _ => cases hkind
  | array hitems ih =>
      intro other hother tail tail' _ _ heq
      have hkind := kind_eq_of_append_eq htexts (.array hitems) hother heq
      cases hother with
      | array hothers =>
          exact selfDelimiting_items htexts (fun item hmem => ⟨hitems item hmem, ih item hmem⟩)
            hothers heq
      | null | boolean _ | number _ | string _ | object _ _ => cases hkind
  | object hkeys hfields ih =>
      intro other hother tail tail' _ _ heq
      have hkind := kind_eq_of_append_eq htexts (.object hkeys hfields) hother heq
      cases hother with
      | object _ hothers =>
          exact selfDelimiting_fields hkeys (fun field hmem => ⟨hfields field hmem, ih field hmem⟩)
            hothers heq
      | null | boolean _ | number _ | string _ | array _ => cases hkind

theorem canonicalText_injective (htexts : NumberTexts numberText numbers) {value other : JsValue}
    (hvalue : JsonValued numbers value) (hother : JsonValued numbers other)
    (h : canonicalText numberText order value = canonicalText numberText order other) :
    SameUpToKeys value other :=
  (selfDelimiting_canonicalText htexts hvalue other hother [] [] nofun nofun (by rw [h])).1

theorem JsonValued.read {value : JsValue} (h : JsonValued numbers value) (key : JsString) :
    value.read key = .undefined ∨ JsonValued numbers (value.read key) := by
  cases h with
  | object _ hfields =>
      rename_i fields _
      cases hfind : fields.find? fun field => field.1 = key with
      | none => exact .inl (by simp [JsValue.read, JsObject.read, hfind])
      | some field =>
          refine .inr ?_
          rw [JsValue.read, JsObject.read, hfind]
          exact hfields field (List.mem_of_find?_eq_some hfind)
  | null | boolean _ | number _ | string _ | array _ => exact .inl rfl

theorem JsonValued.arrayItems_read {value : JsValue} (h : JsonValued numbers value)
    (key : JsString) : ∀ item ∈ (value.read key).arrayItems, JsonValued numbers item := by
  rcases h.read key with hread | hread
  · rw [hread]
    nofun
  · cases hvalue : value.read key with
    | array items =>
        rw [hvalue] at hread
        cases hread with
        | array hitems => exact hitems
    | undefined | null | boolean _ | number _ | string _ | object _ => nofun

theorem SameUpToKeys.items {items others : List JsValue}
    (h : SameUpToKeys (.array items) (.array others)) : List.Forall₂ SameUpToKeys items others := by
  rw [SameUpToKeys, JsValue.sortKeys, JsValue.sortKeys, JsValue.sortItems_eq,
    JsValue.sortItems_eq, JsValue.array.injEq, ← List.forall₂_eq_eq_eq,
    List.forall₂_map_left_iff, List.forall₂_map_right_iff] at h
  exact h

theorem SameUpToKeys.text_eq {text : JsString} {value : JsValue}
    (h : SameUpToKeys (.string text) value) : value = .string text := by
  rw [SameUpToKeys] at h
  cases value <;> simp_all [JsValue.sortKeys]

end Reading

end Raft.Foundation
