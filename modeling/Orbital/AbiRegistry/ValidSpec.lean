import Orbital.AbiRegistry.Spec

/-! # The validator looks at the data

Whether a spec is valid does not depend on the order of members and on members that are
`undefined`.
-/

namespace Orbital.AbiRegistry

open Foundation
open JsValue (SameData member?)

/-! ## What is read off a value -/

theorem get_eq (members : List (JsString × JsValue)) (key : JsString) :
    get members key = (member? members key).getD (.leaf .undefined) := by
  rw [get, member?]
  split
  · rename_i found
    rw [found]
    rfl
  · rfl

theorem sameData_get {first second : List (JsString × JsValue)}
    (same : SameData (.object first) (.object second)) (key : JsString) :
    SameData (get first key) (get second key) := by
  cases same with
  | object keys members =>
      rw [get_eq, get_eq]
      have present := keys key
      cases atFirst : member? first key with
      | none =>
          rw [atFirst, Option.isSome_none] at present
          rw [Option.isSome_eq_false_iff.mp present.symm |> Option.isNone_iff_eq_none.mp]
          exact SameData.refl _
      | some left =>
          rw [atFirst, Option.isSome_some] at present
          rcases Option.isSome_iff_exists.mp present.symm with ⟨right, atSecond⟩
          rw [atSecond]
          exact members key left right atFirst atSecond

variable {first second : JsValue} {items : List JsValue} {path path' key error : JsString}

theorem text?_congr (same : SameData first second) : text? first = text? second := by
  cases same with
  | @leaf first second same =>
      cases first <;> cases second <;> first | rfl | cases same; rfl | cases same
  | array length items | object keys members => rfl

theorem isUndefined_congr (same : SameData first second) :
    isUndefined first = isUndefined second := by
  cases same with
  | @leaf first second same =>
      cases first <;> cases second <;> first | rfl | cases same
  | array length items | object keys members => rfl

/-- A positive integer is not a zero, whose sign may differ. -/
theorem isPositiveInteger_congr (same : SameData first second)
    (positive : isPositiveInteger first = true) : isPositiveInteger second = true := by
  cases same with
  | @leaf first second same =>
      rcases first with _ | _ | _ | number | _ | _ <;> try cases positive
      rcases number with _ | _ | ⟨negative, magnitude⟩ <;> try cases positive
      cases negative with
      | true => cases positive
      | false =>
          rcases second with _ | _ | _ | number' | _ | _ <;> try cases same
          rcases number' with _ | _ | ⟨negative', magnitude'⟩ <;> try cases same
          rw [JsValue.unsignedZero, JsValue.unsignedZero, JsNumber.unsignedZero,
            JsNumber.unsignedZero, Bool.false_and] at same
          injection same with same
          injection same with sign equal
          subst equal
          have nonzero : magnitude ≠ .zero := by
            intro zero
            rw [isPositiveInteger, Bool.and_eq_true, decide_eq_true_eq, zero] at positive
            have small := positive.2
            rw [Magnitude.units, Magnitude.zero, Nat.zero_mul] at small
            exact absurd small (Nat.not_le.mpr (Nat.two_pow_pos places))
          rw [bne_iff_ne.mpr nonzero, Bool.and_true] at sign
          rw [← sign]
          exact positive
  | array length items | object keys members => cases positive

theorem array?_congr (same : SameData first second) (isArray : array? first = some items) :
    ∃ items', array? second = some items' ∧ items.length = items'.length ∧
      ∀ (index : Nat) (left right : JsValue), items[index]? = some left →
        items'[index]? = some right → SameData left right := by
  cases same with
  | leaf same => cases isArray
  | @array first second length parts =>
      cases isArray
      exact ⟨second, rfl, length, parts⟩
  | object keys members => cases isArray

/-! ## Types -/

theorem indexed_congr {check check' : JsValue → JsString → List JsString} {items' : List JsValue}
    (length : items.length = items'.length)
    (step : ∀ (index : Nat) (left right : JsValue) (path path' : JsString),
      items[index]? = some left → items'[index]? = some right →
        check left path = [] → check' right path' = []) {start start' : Nat}
    (valid : indexed check path start items = []) : indexed check' path' start' items' = [] := by
  induction items generalizing items' start start' with
  | nil =>
      rw [List.length_nil] at length
      rw [List.length_eq_zero_iff.mp length.symm]
      rfl
  | cons item rest induction =>
      cases items' with
      | nil => cases length
      | cons item' rest' =>
          rw [indexed, List.append_eq_nil_iff] at valid
          rw [indexed, List.append_eq_nil_iff]
          constructor
          · exact step 0 item item' _ _ rfl rfl valid.1
          · apply induction (Nat.succ.inj length) _ valid.2
            intro index left right path path' atLeft atRight
            exact step (index + 1) left right path path' atLeft atRight

theorem depth_get_lt (members : List (JsString × JsValue)) (key : JsString) :
    (get members key).depth < (JsonTree.object members).depth := by
  rw [get_eq]
  cases found : member? members key with
  | none => exact Nat.succ_pos _
  | some value => exact JsonTree.depth_member_lt (JsValue.mem_of_member? found)

theorem lt_of_array? {value : JsValue} (isArray : array? value = some items) {item : JsValue}
    (inside : item ∈ items) : item.depth < value.depth := by
  cases value with
  | leaf primitive => cases isArray
  | array list =>
      cases isArray
      exact JsonTree.depth_item_lt inside
  | object members => cases isArray

theorem validateTypeSpec_congr (same : SameData first second) {room room' : Nat}
    (fits : first.depth < room) (valid : validateTypeSpec room first path = []) :
    validateTypeSpec room' second path' = [] := by
  induction room generalizing first second room' path path' with
  | zero => exact absurd fits (Nat.not_lt_zero _)
  | succ room induction =>
      cases room' with
      | zero => rfl
      | succ room' =>
          cases same with
          | @leaf first second same =>
              have text := text?_congr (SameData.leaf same)
              cases first with
              | string name =>
                  cases second <;> cases text
                  rw [validateTypeSpec] at valid ⊢
                  split at valid
                  · rename_i known
                    exact if_pos known
                  · cases valid
              | _ => cases valid
          | array length items => cases valid
          | @object first second keys members =>
              have whole : SameData (.object first) (.object second) := .object keys members
              have below : ∀ key, (get first key).depth < room := fun key =>
                Nat.lt_of_lt_of_le (depth_get_lt first key) (Nat.lt_succ_iff.mp fits)
              have child : ∀ (key : JsString) {path path' : JsString},
                  validateTypeSpec room (get first key) path = [] →
                    validateTypeSpec room' (get second key) path' = [] :=
                fun key => induction (sameData_get whole key) (below key)
              have tagSame := text?_congr (sameData_get whole (js "type"))
              rw [validateTypeSpec] at valid ⊢
              rw [← tagSame]
              cases isTag : text? (get first (js "type")) with
              | none =>
                  rw [isTag] at valid
                  cases valid
              | some tag =>
                  rw [isTag] at valid
                  dsimp only at valid ⊢
                  by_cases bytesN : tag = js "bytes_n"
                  · rw [if_pos bytesN] at valid ⊢
                    split at valid
                    · rename_i positive
                      exact if_pos (isPositiveInteger_congr (sameData_get whole _) positive)
                    · cases valid
                  rw [if_neg bytesN] at valid ⊢
                  by_cases option : tag = js "option"
                  · rw [if_pos option] at valid ⊢
                    exact child _ valid
                  rw [if_neg option] at valid ⊢
                  by_cases result : tag = js "result"
                  · rw [if_pos result, List.append_eq_nil_iff] at valid ⊢
                    exact ⟨child _ valid.1, child _ valid.2⟩
                  rw [if_neg result] at valid ⊢
                  by_cases vec : tag = js "vec"
                  · rw [if_pos vec] at valid ⊢
                    exact child _ valid
                  rw [if_neg vec] at valid ⊢
                  by_cases map : tag = js "map"
                  · rw [if_pos map, List.append_eq_nil_iff] at valid ⊢
                    exact ⟨child _ valid.1, child _ valid.2⟩
                  rw [if_neg map] at valid ⊢
                  by_cases tuple : tag = js "tuple"
                  · rw [if_pos tuple] at valid ⊢
                    cases isArray : array? (get first (js "elements")) with
                    | none =>
                        rw [isArray] at valid
                        cases valid
                    | some elements =>
                        rcases array?_congr (sameData_get whole _) isArray with
                          ⟨elements', isArray', length, items⟩
                        rw [isArray] at valid
                        rw [isArray']
                        dsimp only at valid ⊢
                        split at valid
                        · cases valid
                        · rename_i enough
                          rw [if_neg (length ▸ enough)]
                          apply indexed_congr length _ valid
                          intro index left right path path' atLeft atRight
                          exact induction (items index left right atLeft atRight)
                            ((lt_of_array? isArray (List.mem_of_getElem? atLeft)).trans (below _))
                  rw [if_neg tuple] at valid ⊢
                  by_cases named : tag = js "named"
                  · rw [if_pos named] at valid ⊢
                    rw [← text?_congr (sameData_get whole (js "name"))]
                    split at valid
                    · rename_i filled
                      exact if_pos filled
                    · cases valid
                  rw [if_neg named] at valid
                  cases valid

theorem validateType_congr (same : SameData first second) (valid : validateType first path = []) :
    validateType second path' = [] :=
  validateTypeSpec_congr same (Nat.lt_succ_self _) valid

/-! ## Declarations -/

def OfData (check : JsValue → JsString → List JsString) : Prop :=
  ∀ (first second : JsValue) (path path' : JsString), SameData first second →
    check first path = [] → check second path' = []

theorem arrayErrors_congr {check : JsValue → JsString → List JsString} (ofData : OfData check)
    {first second : List (JsString × JsValue)} (same : SameData (.object first) (.object second))
    (valid : arrayErrors check first key path = []) : arrayErrors check second key path' = [] := by
  rw [arrayErrors] at valid ⊢
  cases isArray : array? (get first key) with
  | none =>
      rw [isArray] at valid
      cases valid
  | some items =>
      rcases array?_congr (sameData_get same key) isArray with ⟨items', isArray', length, parts⟩
      rw [isArray] at valid
      rw [isArray']
      apply indexed_congr length _ valid
      intro index left right path path' atLeft atRight
      exact ofData left right path path' (parts index left right atLeft atRight)

theorem textErrors_congr {condition : JsString → Bool} {first second : List (JsString × JsValue)}
    (same : SameData (.object first) (.object second)) {error' : JsString}
    (valid : (if (text? (get first key)).any condition then [] else [error]) = []) :
    (if (text? (get second key)).any condition then [] else [error']) = [] := by
  rw [← text?_congr (sameData_get same key)]
  split at valid
  · rename_i holds
    exact if_pos holds
  · cases valid

theorem ofData_validateFieldSpec : OfData validateFieldSpec := by
  intro first second path path' same valid
  cases same with
  | leaf same | array length items => cases valid
  | object keys members =>
      have whole := SameData.object keys members
      rw [validateFieldSpec, identifierErrors, List.append_eq_nil_iff] at valid ⊢
      exact ⟨textErrors_congr whole valid.1, validateType_congr (sameData_get whole _) valid.2⟩

theorem ofData_validateFunctionSpec : OfData validateFunctionSpec := by
  intro first second path path' same valid
  cases same with
  | leaf same | array length items => cases valid
  | object keys members =>
      have whole := SameData.object keys members
      rw [validateFunctionSpec, identifierErrors, List.append_eq_nil_iff,
        List.append_eq_nil_iff] at valid ⊢
      exact ⟨textErrors_congr whole valid.1,
        arrayErrors_congr ofData_validateFieldSpec whole valid.2.1,
        validateType_congr (sameData_get whole _) valid.2.2⟩

theorem ofData_validateEventSpec : OfData validateEventSpec := by
  intro first second path path' same valid
  cases same with
  | leaf same | array length items => cases valid
  | object keys members =>
      have whole := SameData.object keys members
      rw [validateEventSpec, List.append_eq_nil_iff, List.append_eq_nil_iff] at valid ⊢
      exact ⟨textErrors_congr whole valid.1,
        arrayErrors_congr ofData_validateFieldSpec whole valid.2.1,
        arrayErrors_congr ofData_validateFieldSpec whole valid.2.2⟩

/-! ## Specs -/

theorem optionalErrors_congr {check : JsValue → Bool}
    (ofData : ∀ first second, SameData first second → check first = true → check second = true)
    {first second : List (JsString × JsValue)} (same : SameData (.object first) (.object second))
    {error' : JsString} (valid : optionalErrors check first key error = []) :
    optionalErrors check second key error' = [] := by
  rw [optionalErrors] at valid ⊢
  rw [← isUndefined_congr (sameData_get same key)]
  split at valid
  · rename_i holds
    rw [Bool.or_eq_true] at holds
    rcases holds with undefined | holds
    · rw [undefined, Bool.true_or, if_pos rfl]
    · rw [ofData _ _ (sameData_get same key) holds, Bool.or_true, if_pos rfl]
  · cases valid

theorem textCheck_congr {condition : Option JsString → Bool} (first second : JsValue)
    (same : SameData first second) (holds : condition (text? first) = true) :
    condition (text? second) = true := by
  rw [← text?_congr same]
  exact holds

theorem textsCheck_congr (first second : JsValue) (same : SameData first second)
    (holds : ((array? first).any fun entries => entries.all fun entry =>
      (text? entry).isSome) = true) :
    ((array? second).any fun entries => entries.all fun entry => (text? entry).isSome) = true := by
  rw [Option.any_eq_true] at holds ⊢
  rcases holds with ⟨items, isArray, texts⟩
  rcases array?_congr same isArray with ⟨items', isArray', length, parts⟩
  refine ⟨items', isArray', ?_⟩
  rw [List.all_eq_true] at texts ⊢
  intro item inside
  rcases List.getElem?_of_mem inside with ⟨index, atRight⟩
  have within : index < items.length := length ▸ (List.getElem?_eq_some_iff.mp atRight).1
  have atLeft := List.getElem?_eq_getElem within
  rw [← text?_congr (parts index _ item atLeft atRight)]
  exact texts _ (List.mem_of_getElem? atLeft)

theorem typesErrors_congr (same : SameData first second)
    (valid : (match first with | .object _ => [] | _ => [error]) = []) :
    (match second with
      | .object _ => []
      | _ => [error]) = [] := by
  cases same with
  | leaf same | array length items => cases valid
  | object keys members => rfl

theorem validateSpec_congr (same : SameData first second) (valid : validateSpec first = []) :
    validateSpec second = [] := by
  cases same with
  | leaf same | array length items => cases valid
  | object keys members =>
      have whole := SameData.object keys members
      simp only [validateSpec, List.append_eq_nil_iff] at valid ⊢
      rcases valid with ⟨version, name, description, contractId, network, functions, events,
        types, xdrEntries, pointer⟩
      exact ⟨textErrors_congr whole version, textErrors_congr whole name,
        optionalErrors_congr (textCheck_congr) whole description,
        optionalErrors_congr (textCheck_congr) whole contractId,
        optionalErrors_congr (textCheck_congr) whole network,
        arrayErrors_congr ofData_validateFunctionSpec whole functions,
        arrayErrors_congr ofData_validateEventSpec whole events,
        typesErrors_congr (sameData_get whole _) types,
        optionalErrors_congr textsCheck_congr whole xdrEntries,
        optionalErrors_congr (textCheck_congr) whole pointer⟩

end Orbital.AbiRegistry
