import SessionProbe.Proofs.Wire.Depth
import SessionProbe.Proofs.Wire.Reader
import SessionProbe.Proofs.Wire.Slice

set_option autoImplicit false

/-!
Reading without limits. `Slice.unlimited` reads values however deep their containers lie in each
other. Reading within the limits is the same reading cut off: it gives the values that fit, and
fails at those that do not. `Body.values_eq_ok_iff` says this of whole bodies.
-/

namespace SessionProbe.Wire

def Slice.layer (inner : Slice → Ty → Reader Value) (slice : Slice) : Ty → Reader Value
  | .basic kind => return .scalar (← slice.scalar kind)
  | .variant => do
    let text ← slice.signatureText
    let types ← MonadExcept.ofExcept ((Ty.ofSignature text).mapError .signature)
    let position ← get
    if slice.stop < position then
      throw .outOfBounds
    match types with
    | [] => throw .outOfBounds
    | ty :: _ => return .variant (← inner ⟨slice.body, position⟩ ty)
  | .array element => do
    slice.pad 4
    let length ← slice.number 4
    slice.pad element.alignment
    let start ← get
    let item : Reader Value := do
      slice.pad element.alignment
      slice.element start length fun part => inner part element
    return .array element (← Reader.upTo (start + length) item length)
  | .dictionary key value => do
    slice.pad 4
    let length ← slice.number 4
    slice.pad 8
    let start ← get
    let entry : Reader (Value × Value) := do
      slice.pad 8
      let key ← slice.element start length fun part => inner part key
      let value ← slice.element start length fun part => inner part value
      return (key, value)
    return .dictionary key value (← Reader.upTo (start + length) entry length)
  | .entry _ _ => throw (.signature (.strange '\x7b'))
  | .struct fields => do
    slice.pad 8
    return .struct (← Reader.each (inner slice) fields)

/-- Read a value of any depth. Only the layers that are read are counted, whatever they are. -/
def Slice.unlimited : (fuel : Nat) → Slice → Ty → Reader Value
  | 0, _, _ => throw .outOfBounds
  | fuel + 1, slice, ty => Slice.layer (Slice.unlimited fuel) slice ty

/-- The values of a body, one per type, whatever their depth. -/
def Body.unlimited (body : Body) (fuel : Nat) (types : List Ty) : Except Fault (List Value) :=
  match Reader.each (Slice.unlimited fuel ⟨body, 0⟩) types 0 with
  | .ok values _ => .ok values
  | .error fault _ => .error fault

/-! ### Whatever is read within the limits -/

section Within

variable {α β : Type} {room : Nat} {slice : Slice} {inner : Slice → Ty → Reader Value}

theorem Reader.ofExcept_within {ε : Type} {outcome : Except Fault ε} {next : ε → Reader α}
    {other : Reader α} (each : ∀ value, Reader.Within (next value) other) :
    Reader.Within (MonadExcept.ofExcept outcome >>= next) other := by
  cases outcome with
  | error fault => exact Reader.throw_within fault other
  | ok value => exact each value

theorem Slice.element_mono {start length : Nat} {read other : Slice → Reader α}
    (each : ∀ part, Reader.Within (read part) (other part)) :
    Reader.Within (slice.element start length read) (slice.element start length other) := by
  intro position value next found
  unfold Slice.element at found ⊢
  split at found
  · cases found
  · rename_i inside
    rw [if_neg inside]
    cases first : read ⟨slice.body, position⟩ position with
    | ok part middle =>
        rw [first] at found
        rw [each _ _ _ _ first]
        exact found
    | error fault middle =>
        rw [first] at found
        dsimp only at found
        split at found <;> cases found

/-- Without its checks of the depth, reading a value reads one layer. -/
theorem Slice.value_within_layer (nesting : Nesting)
    (deeper : ∀ less nesting slice ty, room = less + 1 →
      Reader.Within (Slice.value less nesting slice ty) (inner slice ty)) (ty : Ty) :
    Reader.Within (Slice.value room nesting slice ty) (slice.layer inner ty) := by
  cases ty with
  | basic kind =>
      rw [Slice.value, Slice.layer]
      exact Reader.Within.refl _
  | «variant» =>
      rw [Slice.value, Slice.layer]
      refine (Reader.Within.refl _).bind fun text => ?_
      refine (Reader.Within.refl _).bind fun types => ?_
      refine (Reader.Within.refl _).bind fun position => ?_
      dsimp only
      split
      · exact Reader.throw_within _ _
      · cases room with
        | zero => exact Reader.throw_within _ _
        | succ less =>
            cases types with
            | nil => exact Reader.throw_within _ _
            | cons ty others => exact (deeper less nesting _ ty rfl).bind_left _
  | array element =>
      rw [Slice.value, Slice.layer]
      refine (Reader.Within.refl _).bind fun _ => ?_
      refine Reader.ofExcept_within fun entered => ?_
      cases room with
      | zero => exact Reader.throw_within _ _
      | succ less =>
          refine (Reader.Within.refl _).bind fun length => ?_
          refine (Reader.Within.refl _).bind fun _ => ?_
          refine (Reader.Within.refl _).bind fun start => ?_
          refine Reader.Within.bind_left (Reader.Within.upTo ?_ _ _) _
          refine (Reader.Within.refl _).bind fun _ => ?_
          exact Slice.element_mono fun part => deeper less entered part element rfl
  | dictionary keyTy valueTy =>
      rw [Slice.value, Slice.layer]
      refine (Reader.Within.refl _).bind fun _ => ?_
      refine Reader.ofExcept_within fun entered => ?_
      cases room with
      | zero => exact Reader.throw_within _ _
      | succ less =>
          refine (Reader.Within.refl _).bind fun length => ?_
          refine (Reader.Within.refl _).bind fun _ => ?_
          refine (Reader.Within.refl _).bind fun start => ?_
          refine Reader.Within.bind_left (Reader.Within.upTo ?_ _ _) _
          have part (ty : Ty) := @Slice.element_mono Value slice start length _ _ fun part =>
            deeper less entered part ty rfl
          refine (Reader.Within.refl _).bind fun _ => ?_
          exact (part keyTy).bind fun key => (part valueTy).bind_left _
  | entry keyTy valueTy =>
      rw [Slice.value]
      exact Reader.throw_within _ _
  | struct fields =>
      rw [Slice.value, Slice.layer]
      refine (Reader.Within.refl _).bind fun _ => ?_
      refine Reader.ofExcept_within fun entered => ?_
      cases room with
      | zero => exact Reader.throw_within _ _
      | succ less =>
          exact (Reader.within_each (fun ty => deeper less entered slice ty rfl) fields).bind_left _

theorem Slice.value_within_unlimited (room : Nat) (nesting : Nesting) (slice : Slice) (ty : Ty) :
    Reader.Within (Slice.value room nesting slice ty) (Slice.unlimited (room + 1) slice ty) := by
  induction room generalizing nesting slice ty with
  | zero =>
      refine Slice.value_within_layer nesting (fun less _ _ _ none => ?_) ty
      cases none
  | succ room ih =>
      refine Slice.value_within_layer nesting (fun less nesting slice ty one => ?_) ty
      cases one
      exact ih nesting slice ty

end Within

/-! ### Cut off at the limits -/

/-- Where the one reader gives a value, the other gives it too if it has a property, and fails if
not. -/
def Reader.Cuts {α : Type} (holds : α → Prop) (read cut : Reader α) : Prop :=
  ∀ position value next, read position = .ok value next →
    Reader.Decides (holds value) value next (cut position)

section Cuts

variable {α β γ : Type} {holds : α → Prop} {later : β → Prop} {read cut : Reader α}

theorem Reader.throw_cuts (fault : Fault) (cut : Reader α) :
    Reader.Cuts holds (throw fault) cut := by
  intro position value next found
  cases found

theorem Reader.Gives.cuts (gives : Reader.Gives read holds) : Reader.Cuts holds read read := by
  intro position value next found
  rw [found]
  exact .reads (gives _ _ _ found)

theorem Reader.Gives.cuts_throw (gives : Reader.Gives read fun value => ¬holds value)
    (fault : Fault) : Reader.Cuts holds read (throw fault) :=
  fun position _ _ found => .fails (gives _ _ _ found) fault position

/-- What both readers read first need not be cut. -/
theorem Reader.cuts_behind (first : Reader α) {next cutNext : α → Reader β}
    (rest : ∀ value, Reader.Cuts later (next value) (cutNext value)) :
    Reader.Cuts later (first >>= next) (first >>= cutNext) := by
  intro position value last whole
  obtain ⟨part, middle, here, behind⟩ := Reader.bind_eq_ok whole
  rw [Reader.bind_ok here]
  exact rest part _ _ _ behind

theorem Reader.Cuts.map {f : α → β} (first : Reader.Cuts holds read cut)
    (same : ∀ value, holds value ↔ later (f value)) :
    Reader.Cuts later (read >>= fun value => pure (f value))
      (cut >>= fun value => pure (f value)) := by
  intro position result last whole
  obtain ⟨part, middle, here, after⟩ := Reader.bind_eq_ok whole
  cases after
  exact ((first _ _ _ here).map f).congr (same part)

theorem Reader.Cuts.map₂ {also : β → Prop} {whole : γ → Prop} {second cutSecond : Reader β}
    {f : α → β → γ} (first : Reader.Cuts holds read cut)
    (rest : Reader.Cuts also second cutSecond)
    (same : ∀ value other, holds value ∧ also other ↔ whole (f value other)) :
    Reader.Cuts whole
      (do
        let value ← read
        let other ← second
        pure (f value other))
      (do
        let value ← cut
        let other ← cutSecond
        pure (f value other)) := by
  intro position result last found
  obtain ⟨value, middle, here, after⟩ := Reader.bind_eq_ok found
  obtain ⟨other, stop, there, after⟩ := Reader.bind_eq_ok after
  cases after
  exact ((first _ _ _ here).bind _ ((rest _ _ _ there).map (f value))).congr (same value other)

theorem Reader.Cuts.upTo (each : Reader.Cuts holds read cut) (stop fuel : Nat) :
    Reader.Cuts (fun values => ∀ value ∈ values, holds value) (Reader.upTo stop read fuel)
      (Reader.upTo stop cut fuel) := by
  have empty : Reader.Gives (pure []) fun values => ∀ value ∈ values, holds value :=
    Reader.gives_pure (List.forall_mem_nil holds)
  induction fuel with
  | zero =>
      rw [Reader.upTo, Reader.upTo]
      refine Reader.cuts_behind get fun position => ?_
      split
      · exact empty.cuts
      · exact Reader.throw_cuts _ _
  | succ fuel ih =>
      rw [Reader.upTo, Reader.upTo]
      refine Reader.cuts_behind get fun position => ?_
      split
      · exact empty.cuts
      · exact each.map₂ ih fun value values => List.forall_mem_cons.symm

theorem Reader.cuts_each {reads cuts : β → Reader α}
    (each : ∀ item, Reader.Cuts holds (reads item) (cuts item)) (items : List β) :
    Reader.Cuts (fun values => ∀ value ∈ values, holds value) (Reader.each reads items)
      (Reader.each cuts items) := by
  induction items with
  | nil => exact (Reader.gives_pure (List.forall_mem_nil holds)).cuts
  | cons item rest ih => exact (each item).map₂ ih fun value values => List.forall_mem_cons.symm

theorem Slice.element_cuts {slice : Slice} {start length : Nat} {reads cuts : Slice → Reader α}
    (each : ∀ part, Reader.Cuts holds (reads part) (cuts part)) :
    Reader.Cuts holds (slice.element start length reads) (slice.element start length cuts) := by
  intro position value next found
  unfold Slice.element at found
  split at found
  · cases found
  · rename_i inside
    cases first : reads ⟨slice.body, position⟩ position with
    | error fault middle =>
        rw [first] at found
        dsimp only at found
        split at found <;> cases found
    | ok part middle =>
        rw [first] at found
        dsimp only at found
        split at found
        · cases found
        · rename_i keeps
          cases found
          have within : position ≤ slice.body.octets.size := Nat.le_of_not_lt inside
          exact Slice.element_decides within (each _ _ _ _ first) (Nat.le_of_not_lt keeps)

end Cuts

section Limits

variable {room : Nat} {nesting : Nesting} {slice : Slice} {inner : Slice → Ty → Reader Value}

/-- What stands behind the gap in front of an array or dictionary. Where it may not be entered any
more, none fits. -/
theorem Slice.elements_cuts {α : Type} {alignment : Nat} {whole : List α → Value}
    {item : (length start : Nat) → Reader α}
    {cutItem : (less : Nat) → (entered : Nesting) → (length start : Nat) → Reader α}
    {holds : (less : Nat) → (entered : Nesting) → α → Prop}
    (container : ∀ counted items, 0 < counted.ofArray → 0 < (whole items).layers counted)
    (fits : ∀ less entered items, nesting.intoArray = .ok entered →
      ((∀ item ∈ items, holds less entered item) ↔ (whole items).FitsIn (less + 1) nesting))
    (each : ∀ less entered length start,
      Reader.Cuts (holds less entered) (item length start) (cutItem less entered length start)) :
    Reader.Cuts (Value.FitsIn room nesting)
      (do
        let length ← slice.number 4
        slice.pad alignment
        let start ← get
        return whole (← Reader.upTo (start + length) (item length start) length))
      (do
        let entered ← MonadExcept.ofExcept nesting.intoArray
        match room with
        | 0 => throw (.tooDeep .any)
        | less + 1 =>
          let length ← slice.number 4
          slice.pad alignment
          let start ← get
          return whole
            (← Reader.upTo (start + length) (cutItem less entered length start) length)) := by
  have never (excluded : ∀ items, ¬(whole items).FitsIn room nesting) :
      Reader.Gives
        (do
          let length ← slice.number 4
          slice.pad alignment
          let start ← get
          return whole (← Reader.upTo (start + length) (item length start) length))
        fun value => ¬value.FitsIn room nesting :=
    Slice.elements_gives (fun items (_ : ∀ item ∈ items, True) => excluded items)
      fun _ _ _ _ _ _ => trivial
  cases entered : nesting.intoArray with
  | error fault =>
      refine (never fun items => ?_).cuts_throw fault
      exact Value.not_fitsIn_of_intoArray entered (container .array items Nat.one_pos)
  | ok inside =>
      -- From here on both readers read the same stretch, and only the items may be cut.
      cases room with
      | zero =>
          refine (never fun items => ?_).cuts_throw (.tooDeep .any)
          exact Value.not_fitsIn_zero (container .any items Nat.one_pos)
      | succ less =>
          refine Reader.cuts_behind _ fun length => ?_
          refine Reader.cuts_behind _ fun _ => ?_
          refine Reader.cuts_behind _ fun start => ?_
          exact ((each less inside length start).upTo _ _).map fun items =>
            fits less inside items entered

theorem Slice.layer_cuts (deeper : ∀ room nesting slice ty,
      Reader.Cuts (Value.FitsIn room nesting) (inner slice ty) (Slice.value room nesting slice ty))
    (ty : Ty) :
    Reader.Cuts (Value.FitsIn room nesting) (slice.layer inner ty)
      (Slice.value room nesting slice ty) := by
  cases ty with
  | basic kind =>
      rw [Slice.value, Slice.layer]
      refine Reader.Gives.cuts (Reader.gives_bind fun value => ?_)
      exact Reader.gives_pure (Value.fitsIn_scalar value)
  | «variant» =>
      rw [Slice.value, Slice.layer]
      refine Reader.cuts_behind _ fun text => ?_
      refine Reader.cuts_behind _ fun types => ?_
      refine Reader.cuts_behind _ fun position => ?_
      dsimp only
      split
      · exact Reader.throw_cuts _ _
      · cases types with
        | nil => exact Reader.throw_cuts _ _
        | cons ty others =>
            cases room with
            | zero =>
                refine Reader.Gives.cuts_throw (Reader.gives_bind fun content => ?_) _
                exact Reader.gives_pure (Value.not_fitsIn_zero (Nat.succ_pos _))
            | succ room =>
                exact (deeper room nesting _ ty).map fun content => Value.fitsIn_variant_iff.symm
  | array element =>
      rw [Slice.value, Slice.layer]
      refine Reader.cuts_behind _ fun _ => ?_
      refine Slice.elements_cuts (fun counted items one => ?_)
        (fun less entered items inside => (Value.fitsIn_array_iff inside).symm) ?_
      · exact Nat.add_pos_right _ one
      · intro less entered length start
        refine Reader.cuts_behind _ fun _ => ?_
        exact Slice.element_cuts fun part => deeper less entered part element
  | dictionary keyTy valueTy =>
      rw [Slice.value, Slice.layer]
      refine Reader.cuts_behind _ fun _ => ?_
      refine Slice.elements_cuts (fun counted entries one => ?_)
        (fun less entered entries inside => (Value.fitsIn_dictionary_iff inside).symm) ?_
      · exact Nat.add_pos_right _ one
      · intro less entered length start
        refine Reader.cuts_behind _ fun _ => ?_
        have key := @Slice.element_cuts _ _ slice start length _ _ fun part =>
          deeper less entered part keyTy
        have value := @Slice.element_cuts _ _ slice start length _ _ fun part =>
          deeper less entered part valueTy
        exact key.map₂ value fun key value => Iff.rfl
  | entry keyTy valueTy => exact Reader.throw_cuts _ _
  | struct fields =>
      rw [Slice.value, Slice.layer]
      refine Reader.cuts_behind _ fun _ => ?_
      have never (excluded : ∀ values, ¬(Value.struct values).FitsIn room nesting) :
          Reader.Gives (do return Value.struct (← Reader.each (inner slice) fields))
            fun value => ¬value.FitsIn room nesting :=
        Reader.gives_bind fun values => Reader.gives_pure (excluded values)
      cases entered : nesting.intoStruct with
      | error fault =>
          refine (never fun values => ?_).cuts_throw fault
          exact Value.not_fitsIn_of_intoStruct entered (Nat.succ_pos _)
      | ok inside =>
          cases room with
          | zero =>
              refine (never fun values => ?_).cuts_throw (.tooDeep .any)
              exact Value.not_fitsIn_zero (Nat.succ_pos _)
          | succ less =>
              refine (Reader.cuts_each (deeper less inside slice) fields).map fun values => ?_
              exact (Value.fitsIn_struct_iff entered).symm

theorem Slice.unlimited_cuts (fuel room : Nat) (nesting : Nesting) (slice : Slice) (ty : Ty) :
    Reader.Cuts (Value.FitsIn room nesting) (Slice.unlimited fuel slice ty)
      (Slice.value room nesting slice ty) := by
  -- On the fuel of the reader without limits; the room of the other may end before it.
  induction fuel generalizing room nesting slice ty with
  | zero => exact Reader.throw_cuts _ _
  | succ fuel ih => exact Slice.layer_cuts ih ty

end Limits

/-! ### Whole bodies -/

section Whole

variable {body : Body} {fuel : Nat} {types : List Ty} {values : List Value}

theorem Body.unlimited_of_values (read : body.values types = .ok values) :
    ∃ fuel, body.unlimited fuel types = .ok values := by
  unfold Body.values at read
  dsimp only at read
  split at read
  · rename_i found last first
    cases read
    have whole := Reader.within_each (fun ty =>
      Slice.value_within_unlimited (Container.any.limit - 1) ⟨1, 0⟩ ⟨body, 0⟩ ty) types
    refine ⟨Container.any.limit - 1 + 1, ?_⟩
    unfold Body.unlimited
    rw [whole _ _ _ first]
  · cases read

/-- The values of a body are read if they lie within the limits, all of them, and else none. -/
theorem Body.values_of_unlimited (whole : body.unlimited fuel types = .ok values) :
    ((Value.struct values).IsWithinLimits → body.values types = .ok values) ∧
      (¬(Value.struct values).IsWithinLimits → ∃ fault, body.values types = .error fault) := by
  unfold Body.unlimited at whole
  split at whole
  · rename_i found last first
    cases whole
    have cut := Reader.cuts_each
      (Slice.unlimited_cuts fuel (Container.any.limit - 1) ⟨1, 0⟩ ⟨body, 0⟩) types _ _ _ first
    have cut := cut.congr Value.isWithinLimits_iff.symm
    unfold Body.values
    dsimp only
    constructor
    · intro within
      rw [cut.eq_ok within]
    · intro beyond
      obtain ⟨fault, stop, failed⟩ := cut.eq_error beyond
      rw [failed]
      exact ⟨fault, rfl⟩
  · cases whole

theorem Body.values_eq_ok_iff :
    body.values types = .ok values ↔
      (∃ fuel, body.unlimited fuel types = .ok values) ∧ (Value.struct values).IsWithinLimits := by
  constructor
  · intro read
    obtain ⟨fuel, whole⟩ := Body.unlimited_of_values read
    refine ⟨⟨fuel, whole⟩, ?_⟩
    by_contra beyond
    obtain ⟨fault, failed⟩ := (Body.values_of_unlimited whole).2 beyond
    rw [read] at failed
    cases failed
  · rintro ⟨⟨fuel, whole⟩, within⟩
    exact (Body.values_of_unlimited whole).1 within

end Whole

end SessionProbe.Wire
