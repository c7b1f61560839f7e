import Boxui.UI.FormPaths

/-! Writing at a path in memory: the objects on the way are copied, and no object that was there
before is changed. -/
namespace Boxui.UI.Forms
open GoValue JSValue ObjectPath

/-- What a field holds: a value that is no object, or a reference to one. -/
inductive Slot where
  | plain (v : Value)
  | object (address : ℕ)

abbrev Cell := GoMap Slot

/-- The objects allocated so far. -/
abbrev Memory := List Cell

/-- `{ ...source }`. -/
def copyObject (memory : Memory) (source : ℕ) : Memory × ℕ :=
  (memory ++ [memory[source]?.getD ∅], memory.length)

/-- The object in a field, or a new empty one where there is none. -/
def childObject (memory : Memory) (next : ℕ) (key : String) : Memory × ℕ :=
  match (memory[next]?.getD ∅)[key]? with
  | some (.object address) => (memory, address)
  | _ => (memory ++ [∅], memory.length)

def putSlot (cell : Cell) (key : String) : Option Slot → Cell
  | none => cell.erase key
  | some slot => cell.insert key slot

/-- `next[key] = slot`, or `delete next[key]`. -/
def assign (memory : Memory) (next : ℕ) (key : String) (slot : Option Slot) : Memory :=
  memory.modify next fun cell => putSlot cell key slot

/-- The function `update` of both `setPath` and `setPolicyPath`, with the address of what it
returns. -/
def updateObject (value : Option Slot) : List String → Memory → ℕ → Memory × ℕ
  | [], memory, source => copyObject memory source
  | [key], memory, source =>
    let copy := copyObject memory source
    (assign copy.1 copy.2 key value, copy.2)
  | key :: key' :: keys, memory, source =>
    let copy := copyObject memory source
    let child := childObject copy.1 copy.2 key
    let updated := updateObject value (key' :: keys) child.1 child.2
    let slot := if (updated.1[updated.2]?.getD ∅).size ≠ 0 then some (.object updated.2) else none
    (assign updated.1 copy.2 key slot, copy.2)

/-- The value a slot stands for in a part of the memory. -/
inductive Holds (view : ℕ → Option Cell) : Slot → Value → Prop
  | plain (v : Value) : v.asMap? = none → Holds view (.plain v) v
  | object (address : ℕ) (cell : Cell) (v : Value) (m : Object) (content : String → Value) :
      view address = some cell → v.asMap? = some m →
      (∀ key : String, cell[key]? = none → m[key]? = none) →
      (∀ (key : String) (slot : Slot), cell[key]? = some slot → m[key]? = some (content key)) →
      (∀ (key : String) (slot : Slot), cell[key]? = some slot → Holds view slot (content key)) →
      Holds view (.object address) v

/-- Everything one part of the memory shows, the other shows too. -/
def Within (view view' : ℕ → Option Cell) : Prop :=
  ∀ address cell, view address = some cell → view' address = some cell

theorem Within.refl (view : ℕ → Option Cell) : Within view view := fun _ _ h => h

theorem Within.trans {u v w : ℕ → Option Cell} (h₁ : Within u v) (h₂ : Within v w) :
    Within u w :=
  fun address cell h => h₂ address cell (h₁ address cell h)

theorem Holds.mono {view view' : ℕ → Option Cell} (h : Within view view') {slot : Slot}
    {v : Value} (hv : Holds view slot v) : Holds view' slot v := by
  induction hv with
  | plain v hv => exact .plain v hv
  | object address cell v m content hcell hm hnone hsome _ ih =>
    exact .object address cell v m content (h address cell hcell) hm hnone hsome ih

theorem rel_mono {view view' : ℕ → Option Cell} (h : Within view view') {slot : Option Slot}
    {w : Option Value} (hw : Option.Rel (Holds view) slot w) :
    Option.Rel (Holds view') slot w := by
  cases hw with
  | some hs => exact .some (hs.mono h)
  | none => exact .none

@[simp] theorem getElem?_putSlot (cell : Cell) (key key' : String) (slot : Option Slot) :
    (putSlot cell key slot)[key']? = if key = key' then slot else cell[key']? := by
  cases slot with
  | none => exact GoMap.getElem?_erase cell key key'
  | some slot => exact GoMap.getElem?_insert cell key key' slot

theorem within_append (memory : Memory) (cell : Cell) :
    Within (memory[·]?) ((memory ++ [cell])[·]?) := by
  intro address c h
  obtain ⟨hlt, -⟩ := List.getElem?_eq_some_iff.mp h
  change (memory ++ [cell])[address]? = some c
  rw [List.getElem?_append_left hlt]
  exact h

theorem getElem?_assign_of_ne (memory : Memory) {next address : ℕ} (h : next ≠ address)
    (key : String) (slot : Option Slot) :
    (assign memory next key slot)[address]? = memory[address]? := by
  rw [assign, List.getElem?_modify]
  simp only [if_neg h]
  cases memory[address]? <;> rfl

theorem within_assign {view : ℕ → Option Cell} {memory : Memory} {next : ℕ}
    (h : Within view (memory[·]?)) (hnext : view next = none) (key : String)
    (slot : Option Slot) : Within view ((assign memory next key slot)[·]?) := by
  intro address cell hcell
  have hne : next ≠ address := by
    rintro rfl
    rw [hnext] at hcell
    cases hcell
  exact (getElem?_assign_of_ne memory hne key slot).trans (h address cell hcell)

theorem getElem?_length_eq_none (memory : Memory) : memory[memory.length]? = none :=
  List.getElem?_eq_none (Nat.le_refl _)

theorem within_childObject (memory : Memory) (next : ℕ) (key : String) :
    Within (memory[·]?) ((childObject memory next key).1[·]?) := by
  rw [childObject]
  split
  · exact Within.refl _
  · exact within_append memory ∅

theorem length_childObject (memory : Memory) (next : ℕ) (key : String) :
    memory.length ≤ (childObject memory next key).1.length := by
  rw [childObject]
  split
  · exact Nat.le_refl _
  · rw [List.length_append]
    exact Nat.le_add_right _ _

@[simp] theorem snd_updateObject (value : Option Slot) (keys : List String) (memory : Memory)
    (source : ℕ) : (updateObject value keys memory source).2 = memory.length := by
  cases keys with
  | nil => rfl
  | cons key keys => cases keys <;> rfl

/-- The objects that were there keep their fields. -/
theorem within_updateObject (value : Option Slot) (keys : List String) (memory : Memory)
    (source : ℕ) : Within (memory[·]?) ((updateObject value keys memory source).1[·]?) := by
  have hcopy := within_append memory (memory[source]?.getD ∅)
  induction keys generalizing memory source with
  | nil => exact hcopy
  | cons key keys ih =>
    cases keys with
    | nil => exact within_assign hcopy (getElem?_length_eq_none memory) key value
    | cons key' keys =>
      refine within_assign ?_ (getElem?_length_eq_none memory) key _
      apply hcopy.trans
      apply (within_childObject (copyObject memory source).1 memory.length key).trans
      exact ih _ _ (within_append _ _)

/-- A part of the memory with one object more. -/
def withObject (view : ℕ → Option Cell) (next : ℕ) (cell : Cell) : ℕ → Option Cell :=
  fun address => if address = next then some cell else view address

@[simp] theorem withObject_self (view : ℕ → Option Cell) (next : ℕ) (cell : Cell) :
    withObject view next cell next = some cell := if_pos rfl

theorem within_withObject {view : ℕ → Option Cell} {next : ℕ} (h : view next = none)
    (cell : Cell) : Within view (withObject view next cell) := by
  intro address c hc
  have hne : address ≠ next := by
    rintro rfl
    rw [h] at hc
    cases hc
  rw [withObject, if_neg hne]
  exact hc

theorem withObject_within {view memory : ℕ → Option Cell} {next : ℕ} {cell : Cell}
    (h : Within view memory) (hnext : memory next = some cell) :
    Within (withObject view next cell) memory := by
  intro address c hc
  rw [withObject] at hc
  split_ifs at hc with heq
  · rw [heq, hnext, hc]
  · exact h address c hc

theorem view_length_eq_none {view : ℕ → Option Cell} {memory : Memory}
    (h : Within view (memory[·]?)) {address : ℕ} (hlen : memory.length ≤ address) :
    view address = none := by
  cases hv : view address with
  | none => rfl
  | some cell =>
    have hmem : memory[address]? = some cell := h address cell hv
    rw [List.getElem?_eq_none hlen] at hmem
    cases hmem

/-- What an address stands for depends on the fields of the object only. -/
theorem Holds.toValue {view : ℕ → Option Cell} {address : ℕ} {v : Value} {m : Object}
    (h : Holds view (.object address) v) (hm : v.asMap? = some m) :
    Holds view (.object address) m.toValue := by
  cases h with
  | object _ cell _ m' content hcell hm' hnone hsome hall =>
    obtain rfl : m' = m := Option.some.inj (hm'.symm.trans hm)
    exact .object address cell _ m' content hcell (Value.asMap?_toValue m') hnone hsome hall

/-- An object with one field changed. -/
theorem Holds.put {view view' : ℕ → Option Cell} {source next : ℕ} {cell : Cell} {m : Object}
    {key : String} {slot : Option Slot} {w : Option Value}
    (h : Holds view (.object source) m.toValue) (hcell : view source = some cell)
    (hview : Within view view') (hnext : view' next = some (putSlot cell key slot))
    (hw : Option.Rel (Holds view') slot w) :
    Holds view' (.object next) (put m key w).toValue := by
  cases h with
  | object _ cell' _ m' content hcell' hm' hnone hsome hall =>
    obtain rfl : cell' = cell := Option.some.inj (hcell'.symm.trans hcell)
    obtain rfl : m' = m := Option.some.inj (hm'.symm.trans (Value.asMap?_toValue m))
    refine .object next _ _ _ (fun k => if key = k then w.getD .null else content k) hnext
      (Value.asMap?_toValue _) (fun k hk => ?_) (fun k s hk => ?_) (fun k s hk => ?_)
    · rw [getElem?_putSlot] at hk
      rw [getElem?_put]
      split_ifs at hk ⊢
      · subst hk
        cases hw
        rfl
      · exact hnone k hk
    · rw [getElem?_putSlot] at hk
      rw [getElem?_put]
      split_ifs at hk ⊢
      · subst hk
        cases hw
        rfl
      · exact hsome k s hk
    · rw [getElem?_putSlot] at hk
      split_ifs at hk ⊢
      · subst hk
        cases hw with
        | some hs => exact hs
      · exact (hall k s hk).mono hview

theorem Holds.cell {view : ℕ → Option Cell} {address : ℕ} {v : Value}
    (h : Holds view (.object address) v) : ∃ cell, view address = some cell := by
  cases h with
  | object _ cell _ _ _ hcell _ _ _ _ => exact ⟨cell, hcell⟩

/-- `Object.keys` of an object in memory is empty where the object is. -/
theorem Holds.size_eq_zero_iff {view : ℕ → Option Cell} {address : ℕ} {cell : Cell} {m : Object}
    (h : Holds view (.object address) m.toValue) (hcell : view address = some cell) :
    cell.size = 0 ↔ m = ∅ := by
  cases h with
  | object _ cell' _ m' content hcell' hm' hnone hsome _ =>
    obtain rfl : cell' = cell := Option.some.inj (hcell'.symm.trans hcell)
    obtain rfl : m' = m := Option.some.inj (hm'.symm.trans (Value.asMap?_toValue m))
    rw [← Std.ExtTreeMap.eq_empty_iff_size_eq_zero]
    constructor
    · rintro rfl
      apply Std.ExtTreeMap.ext_getElem?
      intro key
      rw [Std.ExtTreeMap.getElem?_empty]
      exact hnone key Std.ExtTreeMap.getElem?_empty
    · rintro rfl
      apply Std.ExtTreeMap.ext_getElem?
      intro key
      rw [Std.ExtTreeMap.getElem?_empty]
      cases hk : cell'[key]? with
      | none => rfl
      | some slot =>
        have hsome' := hsome key slot hk
        rw [Std.ExtTreeMap.getElem?_empty] at hsome'
        cases hsome'

theorem Holds.rel_nonempty {view : ℕ → Option Cell} {address : ℕ} {cell : Cell} {m : Object}
    (h : Holds view (.object address) m.toValue) (hcell : view address = some cell) :
    Option.Rel (Holds view) (if cell.size ≠ 0 then some (.object address) else none)
      (nonempty m) := by
  have hsize := h.size_eq_zero_iff hcell
  by_cases hempty : m = ∅
  · rw [if_neg (not_not.mpr (hsize.mpr hempty)), hempty, nonempty_empty]
    exact .none
  · rw [if_pos (mt hsize.mp hempty), nonempty, if_neg (mt Std.ExtTreeMap.isEmpty_iff.mp hempty)]
    exact .some h

/-- What a step adds to a part of the memory lies at new addresses. -/
def AddsFrom (bound : ℕ) (view view' : ℕ → Option Cell) : Prop :=
  ∀ address cell, view' address = some cell → view address = some cell ∨ bound ≤ address

theorem AddsFrom.eq_none {bound address : ℕ} {view view' : ℕ → Option Cell}
    (h : AddsFrom bound view view') (haddress : address < bound) (hview : view address = none) :
    view' address = none := by
  cases hv : view' address with
  | none => rfl
  | some cell =>
    obtain hold | hnew := h address cell hv
    · rw [hview] at hold
      cases hold
    · omega

theorem addsFrom_withObject {bound : ℕ} (view : ℕ → Option Cell) {next : ℕ} (h : bound ≤ next)
    (cell : Cell) : AddsFrom bound view (withObject view next cell) := by
  intro address c hc
  rw [withObject] at hc
  split_ifs at hc with heq
  · exact .inr (heq ▸ h)
  · exact .inl hc

theorem AddsFrom.trans {bound : ℕ} {u v w : ℕ → Option Cell} (h₁ : AddsFrom bound u v)
    (h₂ : AddsFrom bound v w) : AddsFrom bound u w := by
  intro address cell hw
  obtain hv | hnew := h₂ address cell hw
  · exact h₁ address cell hv
  · exact .inr hnew

theorem AddsFrom.mono {bound bound' : ℕ} {u v : ℕ → Option Cell} (h : AddsFrom bound u v)
    (hle : bound' ≤ bound) : AddsFrom bound' u v := by
  intro address cell hv
  obtain hu | hnew := h address cell hv
  · exact .inl hu
  · exact .inr (Nat.le_trans hle hnew)

theorem holds_empty {view : ℕ → Option Cell} {address : ℕ} (h : view address = some ∅) :
    Holds view (.object address) (Object.toValue ∅) := by
  have hnone : ∀ key : String, (∅ : Cell)[key]? = none := fun _ => Std.ExtTreeMap.getElem?_empty
  refine .object address ∅ _ ∅ (fun _ => .null) h (Value.asMap?_toValue ∅)
    (fun _ _ => Std.ExtTreeMap.getElem?_empty) (fun key slot hk => ?_) (fun key slot hk => ?_)
  · rw [hnone key] at hk
    cases hk
  · rw [hnone key] at hk
    cases hk

/-- Going into a field yields the object the model goes into. -/
theorem holds_childObject {view : ℕ → Option Cell} {memory : Memory} {source next : ℕ}
    {cell : Cell} {m : Object} (key : String) (hview : Within view (memory[·]?))
    (hnext : memory[next]? = some cell) (hcell : view source = some cell)
    (h : Holds view (.object source) m.toValue) :
    ∃ view', Within view view' ∧ Within view' ((childObject memory next key).1[·]?) ∧
      AddsFrom memory.length view view' ∧
      Holds view' (.object (childObject memory next key).2) (child m key).toValue := by
  cases h with
  | object _ cell' _ m' content hcell' hm' hnone hsome hall =>
    obtain rfl : cell' = cell := Option.some.inj (hcell'.symm.trans hcell)
    obtain rfl : m' = m := Option.some.inj (hm'.symm.trans (Value.asMap?_toValue m))
    have hnew : child m' key = ∅ →
        ∃ view', Within view view' ∧ Within view' ((memory ++ [∅])[·]?) ∧
          AddsFrom memory.length view view' ∧
          Holds view' (.object memory.length) (child m' key).toValue := by
      intro hempty
      refine ⟨withObject view memory.length ∅, ?_, ?_, ?_, ?_⟩
      · exact within_withObject (view_length_eq_none hview (Nat.le_refl _)) ∅
      · exact withObject_within (hview.trans (within_append memory ∅)) List.getElem?_concat_length
      · exact addsFrom_withObject view (Nat.le_refl _) ∅
      · rw [hempty]
        exact holds_empty (withObject_self view memory.length ∅)
    rw [childObject, hnext, Option.getD_some]
    cases hk : cell'[key]? with
    | none =>
      apply hnew
      rw [child, hnone key hk, Option.bind_none, Option.getD_none]
    | some slot =>
      have hslot := hall key slot hk
      have hvalue := hsome key slot hk
      cases slot with
      | plain u =>
        apply hnew
        cases hslot with
        | plain _ hu => rw [child, hvalue, Option.bind_some, hu, Option.getD_none]
      | object address =>
        refine ⟨view, Within.refl view, hview, fun _ _ hc => .inl hc, ?_⟩
        cases hslot with
        | object _ c v mc content' hc hmc h₁ h₂ h₃ =>
          have hchild : child m' key = mc := by
            rw [child, hvalue, Option.bind_some, hmc, Option.getD_some]
          rw [hchild]
          exact (Holds.object address c _ mc content' hc hmc h₁ h₂ h₃).toValue hmc

/-- What `setPath` leaves in memory is what it computes on values. -/
theorem holds_updateObject {view : ℕ → Option Cell} {memory : Memory} {source : ℕ} {m : Object}
    {value : Option Slot} {w : Option Value} {keys : List String} (hkeys : keys ≠ [])
    (hview : Within view (memory[·]?)) (h : Holds view (.object source) m.toValue)
    (hw : Option.Rel (Holds view) value w) :
    ∃ view', Within view view' ∧
      Within view' ((updateObject value keys memory source).1[·]?) ∧
      AddsFrom memory.length view view' ∧
      Holds view' (.object memory.length) (setPath m keys w).toValue := by
  rw [setPath_eq_set]
  induction keys generalizing view memory source m with
  | nil => exact absurd rfl hkeys
  | cons key keys ih =>
    obtain ⟨cell, hcell⟩ := h.cell
    have hsource : memory[source]? = some cell := hview source cell hcell
    have hfree := view_length_eq_none hview (Nat.le_refl memory.length)
    have hcopy := hview.trans (within_append memory cell)
    have hlast : (memory ++ [cell])[memory.length]? = some cell := List.getElem?_concat_length
    cases keys with
    | nil =>
      have hsub := within_withObject hfree (putSlot cell key value)
      refine ⟨withObject view memory.length (putSlot cell key value), hsub, ?_, ?_, ?_⟩
      · rw [updateObject, copyObject, hsource, Option.getD_some]
        apply withObject_within (within_assign hcopy hfree key value)
        rw [assign, List.getElem?_modify, hlast]
        exact congrArg some (if_pos rfl)
      · exact addsFrom_withObject view (Nat.le_refl _) _
      · exact h.put hcell hsub (withObject_self view _ _) (rel_mono hsub hw)
    | cons key' keys =>
      obtain ⟨view₁, hsub₁, hview₁, hadds₁, hchild⟩ := holds_childObject key hcopy hlast hcell h
      obtain ⟨view₂, hsub₂, hview₂, hadds₂, hupdated⟩ :=
        ih (List.cons_ne_nil key' keys) hview₁ hchild (rel_mono hsub₁ hw)
      have hlen : (memory ++ [cell]).length = memory.length + 1 := List.length_append
      have hlen₁ := length_childObject (memory ++ [cell]) memory.length key
      -- the copy itself is in neither part of the memory
      have hfree₁ := hadds₁.eq_none (by omega) hfree
      have hfree₂ := hadds₂.eq_none (by omega) hfree₁
      obtain ⟨cell₂, hcell₂⟩ := hupdated.cell
      have hsub₂' := hsub₁.trans hsub₂
      have hfinal : ∀ slot, Within (withObject view₂ memory.length (putSlot cell key slot))
          ((assign (updateObject value (key' :: keys)
            (childObject (memory ++ [cell]) memory.length key).1
            (childObject (memory ++ [cell]) memory.length key).2).1 memory.length key slot
            )[·]?) := by
        intro slot
        apply withObject_within (within_assign hview₂ hfree₂ key slot)
        have hlast₂ := within_updateObject value (key' :: keys) _
          (childObject (memory ++ [cell]) memory.length key).2 _ _
          (within_childObject _ memory.length key _ _ hlast)
        dsimp only at hlast₂
        rw [assign, List.getElem?_modify, hlast₂]
        exact congrArg some (if_pos rfl)
      have hsub := within_withObject hfree₂ (putSlot cell key
        (if cell₂.size ≠ 0 then
          some (Slot.object (childObject (memory ++ [cell]) memory.length key).1.length) else none))
      refine ⟨_, hsub₂'.trans hsub, ?_, ?_, ?_⟩
      · have hread := hview₂ _ _ hcell₂
        dsimp only at hread
        simp only [updateObject, copyObject, hsource, Option.getD_some, snd_updateObject, hread]
        exact hfinal _
      · have hadds := (hadds₁.trans (hadds₂.mono hlen₁)).mono
          (show memory.length ≤ (memory ++ [cell]).length by omega)
        exact hadds.trans (addsFrom_withObject view₂ (Nat.le_refl _) _)
      · rw [set_cons_cons]
        apply h.put hcell (hsub₂'.trans hsub) (withObject_self view₂ _ _)
        exact rel_mono hsub (hupdated.rel_nonempty hcell₂)

/-- Path access is a lens that copies what it changes and leaves no emptied object behind. -/
theorem setPath_lens (object : Object) {path : List String} (h : PlainPath path)
    (value a b : Option Value) :
    getPath (setPath object path value) path = Read.ofOption value ∧
      setPath (setPath object path a) path b = setPath object path b ∧
      (∀ other, PlainPath other → Apart path other →
        getPath (setPath object path value) other = getPath object other) ∧
      (∀ q r, path = q ++ r → q ≠ [] → r ≠ [] →
        getPath (setPath object path none) q =
          Read.ofOption (nonempty (setPath (objectAt object q) r none))) ∧
      (∀ (memory : Memory) (source : ℕ) (slot : Option Slot),
        Holds (memory[·]?) (.object source) object.toValue →
        Option.Rel (Holds (memory[·]?)) slot value →
        Within (memory[·]?) ((updateObject slot path memory source).1[·]?) ∧
        Holds ((updateObject slot path memory source).1[·]?) (.object source) object.toValue ∧
        Holds ((updateObject slot path memory source).1[·]?)
          (.object (updateObject slot path memory source).2)
          (setPath object path value).toValue) ∧
      ∀ (o : Object) (p : List String) (v : Option Value),
        getPath o p = getPolicyPath o p ∧ setPath o p v = setPolicyPath o p v := by
  obtain ⟨hne, hplain⟩ := h
  refine ⟨?_, ?_, ?_, ?_, ?_, ?_⟩
  · rw [setPath_eq_set, getPath_eq _ hplain, getPath_set object hne]
  · rw [setPath_eq_set, setPath_eq_set, setPath_eq_set, set_set]
  · intro other hother hapart
    rw [setPath_eq_set, getPath_eq _ hother.2, getPath_eq _ hother.2,
      getPath_set_of_apart object hapart]
  · rintro q r rfl hq hr
    have hkeys : ∀ key ∈ q, key ∉ inheritedNames :=
      fun key hkey => hplain key (List.mem_append_left r hkey)
    rw [setPath_eq_set, setPath_eq_set, getPath_eq _ hkeys, getPath_set_prefix object hq hr]
  · intro memory source slot hobject hslot
    have hsub := within_updateObject slot path memory source
    obtain ⟨view, -, hview, -, hresult⟩ :=
      holds_updateObject hne (Within.refl _) hobject hslot
    rw [snd_updateObject]
    exact ⟨hsub, hobject.mono hsub, hresult.mono hview⟩
  · exact fun o p v => ⟨getPath_eq_getPolicyPath o p, setPath_eq_setPolicyPath o p v⟩

/-- Removing the only field of a nested object removes the object. -/
theorem setPath_lens_emptied :
    getPath (setPath (Std.ExtTreeMap.ofList [("tls", .obj [("enabled", .bool true)])] compare)
      ["tls", "enabled"] none) ["tls"] = .undefined := by
  have hplain : PlainPath ["tls", "enabled"] := by decide
  have h := (setPath_lens (Std.ExtTreeMap.ofList [("tls", .obj [("enabled", .bool true)])] compare)
    hplain none none none).2.2.2.1 ["tls"] ["enabled"] rfl (List.cons_ne_nil _ _)
    (List.cons_ne_nil _ _)
  exact h

end Boxui.UI.Forms
