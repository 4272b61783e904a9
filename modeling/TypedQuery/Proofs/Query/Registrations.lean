import TypedQuery.Proofs.Query.Isolation
import TypedQuery.Proofs.Query.Leaves

/-!
# Registrations — what a session does with a type that is registered

Whatever the encoders of a session do, a registry only grows (`extends_after`), and a registration
arrives where it is aimed (`registry_of_registration`). A type that is a leaf of a registry therefore
stays one, and every later compilation against that registry, of a query built before or after,
selects nothing of its members. Which types a registration makes leaves is said by the family alone:
**`registration_cuts`**. Of declared types it makes every one a leaf but a pointer
(`isLeaf_of_registration`), and the registration of a pointer shows nowhere
(`compiled_of_pointer_registration`).
-/

set_option autoImplicit false

namespace TypedQuery

variable {S : Schema}

theorem Query.extends_compile (q : Query S) (registry : Registry) :
    (q.compile registry).registry.Extends registry := by
  rw [registry_compile]
  exact registry.extends_registerAll _

namespace Session

/-! ## Registries grow -/

theorem extends_of_change {s : Session S} {step : Step S} {r : Nat} {f : Registry → Registry}
    (changes : step.change? s = some (r, f)) : (f (s.registry r)).Extends (s.registry r) := by
  cases step with
  | register b type =>
    obtain ⟨builder, -, same⟩ := Option.map_eq_some_iff.1 changes
    obtain ⟨rfl, rfl⟩ := Prod.mk.inj same
    exact Registry.extends_register _ type
  | registerThrough q type =>
    obtain ⟨query, -, same⟩ := Option.map_eq_some_iff.1 changes
    obtain ⟨rfl, rfl⟩ := Prod.mk.inj same
    exact Registry.extends_register _ type
  | registerProcessWide type =>
    obtain ⟨rfl, rfl⟩ := Prod.mk.inj (Option.some.inj changes)
    exact Registry.extends_register _ type
  | compile q =>
    obtain ⟨query, -, same⟩ := Option.map_eq_some_iff.1 changes
    obtain ⟨rfl, rfl⟩ := Prod.mk.inj same
    exact query.query.extends_compile _
  | encodeFor b encoder value =>
    obtain ⟨builder, -, same⟩ := Option.map_eq_some_iff.1 changes
    obtain ⟨rfl, rfl⟩ := Prod.mk.inj same
    exact Registry.extends_registerAll _ _
  | _ => exact absurd changes (by simp [Step.change?])

/-- **A step takes nothing out of a registry**, whatever encoders are in use. -/
theorem extends_step (past : List (Step S)) (step : Step S) (r : Nat) :
    ((after (step :: past)).registry r).Extends ((after past).registry r) := by
  rw [after_cons, registry_step (inRange_after past)]
  cases changes : step.change? (after past) with
  | none => exact .refl _
  | some change =>
    dsimp only
    split
    · rename_i here
      rw [here]
      exact extends_of_change changes
    · exact .refl _

theorem extends_after (past later : List (Step S)) (r : Nat) :
    ((after (later ++ past)).registry r).Extends ((after past).registry r) := by
  induction later with
  | nil => exact .refl _
  | cons step later ih =>
    intro key held
    exact extends_step (later ++ past) step r key (ih key held)

theorem registry_of_registration {past : List (Step S)} {step : Step S} {r : Nat} {key : TypeKey}
    (registers : step.registration? (after past) = some (r, key)) :
    (after (step :: past)).registry r = ((after past).registry r).register key := by
  rw [after_cons, registry_step (inRange_after past), change?_of_registration registers]
  exact if_pos rfl

/-! ## Types that are declared -/

section Declared

variable {n : Nat} {declared : Fin n → TypeKey × Declaration n} {i : Fin n}
  {past : List (Step (.ofDeclarations declared))} {step : Step (.ofDeclarations declared)} {r : Nat}

/-- **A registration makes a declared type a leaf**, unless the type is a pointer. -/
theorem isLeaf_of_registration (plain : ¬ Schema.IsPointer declared i)
    (registers : step.registration? (after past) =
      some (r, (Schema.ofDeclarations declared).typeKey i)) :
    (Schema.ofDeclarations declared).IsLeaf ((after (step :: past)).registry r) i := by
  rw [registry_of_registration registers]
  apply Schema.isLeaf_register_own
  rw [Schema.key_of_not_isPointer plain]
  exact TypeKey.beq_iff.2 rfl

/-- **The registration of a pointer does not show**: after it every query compiles to what it
    compiled to before. -/
theorem compiled_of_pointer_registration
    (distinct : ∀ a b, ((declared a).1 == (declared b).1) = true → a = b)
    (pointer : Schema.IsPointer declared i) {d : Descriptor n}
    (leads : Declaration.resolve declared n i = some d)
    (registers : step.registration? (after past) =
      some (r, (Schema.ofDeclarations declared).typeKey i))
    (bound : BoundQuery (.ofDeclarations declared)) :
    ((after (step :: past)).compiled bound).outcome = ((after past).compiled bound).outcome := by
  refine bound.query.outcome_compile_congr fun j => ?_
  rw [after_cons, registry_step (inRange_after past), change?_of_registration registers]
  dsimp only
  split
  · have unused := Schema.key_ne_of_isPointer distinct pointer leads j
    rw [Registry.contains_register]
    exact (congrArg (_ || ·) unused).trans (Bool.or_false _)
  · rfl

end Declared

/-! ## What is registered is cut off -/

/-- Nothing is selected of a member whose type is a leaf of the registry. -/
theorem selection_eq_none_of_isLeaf {s : Session S} {bound : BoundQuery S} {set : SelectionSet}
    (done : (s.compiled bound).outcome = .ok set) {i : S.Ref}
    (leaf : S.IsLeaf (s.registry bound.registry) i) {places : List Nat} {m : Member S.size}
    (declared : S.memberAt? (s.compiled bound).registry bound.query.root places = some m)
    (same : S.descriptor m.type = S.descriptor i) :
    ∃ f, set.fieldAt? places = some f ∧ f.selection = none := by
  obtain ⟨e, hregistry, -, -, expanded⟩ := Query.exists_expansion_of_ok done
  have produced := e.rel_fieldAt?_of_root expanded places
  rw [hregistry] at produced
  have found : S.memberAt? (bound.query.compile (s.registry bound.registry)).registry
      bound.query.root places = some m := declared
  rw [found] at produced
  cases field : set.fieldAt? places with
  | none => rw [field] at produced; cases produced
  | some f =>
    rw [field, Option.rel_some_some] at produced
    refine ⟨f, rfl, produced.leaf.2 ?_⟩
    rw [hregistry]
    exact (Schema.isLeaf_congr same).2 (leaf.mono (bound.query.extends_compile _))

/-- **What registering a type does.** Once a step has registered the type on a registry, it is a
    leaf there exactly if it was one before or its own key is met while it is unwrapped; so it is
    wherever its descriptor carries that key. And once it is a leaf it is one after any later steps,
    and whatever query is compiled against the registry by then, of a member of that type nothing is
    selected. -/
theorem registration_cuts {past : List (Step S)} {step : Step S} {r : Nat} {i : S.Ref}
    (registers : step.registration? (after past) = some (r, S.typeKey i)) :
    (S.IsLeaf ((after (step :: past)).registry r) i ↔
      S.IsLeaf ((after past).registry r) i ∨
        S.Meets ((after past).registry r) (S.typeKey i) i) ∧
    ((S.key i == S.typeKey i) = true → S.IsLeaf ((after (step :: past)).registry r) i) ∧
    (S.IsLeaf ((after (step :: past)).registry r) i → ∀ later : List (Step S),
      S.IsLeaf ((after (later ++ step :: past)).registry r) i ∧
      ∀ bound : BoundQuery S, bound.registry = r → ∀ set,
        ((after (later ++ step :: past)).compiled bound).outcome = .ok set →
        ∀ places m, S.memberAt? ((after (later ++ step :: past)).compiled bound).registry
            bound.query.root places = some m →
          S.descriptor m.type = S.descriptor i →
          ∃ f, set.fieldAt? places = some f ∧ f.selection = none) := by
  rw [registry_of_registration registers]
  refine ⟨Schema.isLeaf_register_iff, Schema.isLeaf_register_own, ?_⟩
  intro leaf later
  have still : S.IsLeaf ((after (later ++ step :: past)).registry r) i := by
    rw [← registry_of_registration registers] at leaf
    exact leaf.mono (extends_after (step :: past) later r)
  refine ⟨still, ?_⟩
  rintro bound rfl set done places m declared same
  exact selection_eq_none_of_isLeaf done still declared same

end Session

/-- Crates of items behind a pointer, and maybe a list of such. -/
def crates.declared (i : Fin 6) : TypeKey × Declaration 6 :=
  match i with
  | 0 => (Builtin.int32.key, .scalar)
  | 1 => (⟨23, "Item"⟩, .composite [⟨⟨⟨23, "Item"⟩, "id"⟩, none, 0⟩])
  | 2 => (⟨24, "Box<Item>"⟩, .pointer 1)
  | 3 => (⟨25, "Vec<Box<Item>>"⟩, .collection 2)
  | 4 => (⟨26, "Option<Vec<Box<Item>>>"⟩, .optional 3)
  | 5 => (⟨27, "Crate"⟩, .composite
      [⟨⟨⟨27, "Crate"⟩, "content"⟩, none, 2⟩, ⟨⟨⟨27, "Crate"⟩, "spare"⟩, none, 4⟩])

def crates : Schema := .ofDeclarations crates.declared

namespace crates

open Session

def item : crates.Ref := (1 : Fin 6)
def boxed : crates.Ref := (2 : Fin 6)
def crate : crates.Ref := (5 : Fin 6)

def itemId : Member crates.size := ⟨⟨⟨23, "Item"⟩, "id"⟩, none, (0 : Fin 6)⟩
def content : Member crates.size := ⟨⟨⟨27, "Crate"⟩, "content"⟩, none, boxed⟩
def spare : Member crates.size := ⟨⟨⟨27, "Crate"⟩, "spare"⟩, none, (4 : Fin 6)⟩

/-- What a crate expands to where nothing of it is registered. -/
theorem root_of_unregistered (e : Expansion crates)
    (hcrate : crates.classify e.registry crate = some (.composite crate))
    (hcontent : crates.classify e.registry content.type = some (.composite boxed))
    (hspare : crates.classify e.registry spare.type = some (.composite boxed))
    (leaf : crates.classify e.registry itemId.type = some (.scalar Builtin.int32.key)) :
    e.root crate = .ok ⟨[.nested (e.fieldHead content) [.leaf (e.fieldHead itemId)],
      .nested (e.fieldHead spare) [.leaf (e.fieldHead itemId)]]⟩ := by
  have items : ∀ path, e.expand [crates.key crate] path boxed =
      .ok ⟨[.leaf (e.fieldHead itemId)]⟩ := by
    intro path
    refine e.expand_eq_ok_iff.2 ⟨rfl, .cons ?_ .nil⟩
    exact e.field_eq_ok_iff.2 ⟨none, e.select_of_scalar leaf, rfl⟩
  -- either member is the composite behind the pointer
  have member : ∀ m : Member crates.size,
      crates.classify e.registry m.type = some (.composite boxed) →
      e.field [crates.key crate] [] m =
        .ok (.nested (e.fieldHead m) [.leaf (e.fieldHead itemId)]) := by
    intro m composite
    refine e.field_eq_ok_iff.2 ⟨some ⟨[.leaf (e.fieldHead itemId)]⟩, ?_, rfl⟩
    rw [e.select_of_composite composite, items]
    rfl
  rw [e.root_of_composite hcrate]
  exact e.expand_eq_ok_iff.2
    ⟨rfl, .cons (member content hcontent) (.cons (member spare hspare) .nil)⟩

def built : List (Step crates) := [.build 0 crate]

def query : BoundQuery crates := (Builder.on 1).build crate

/-- With items registered the query over crates selects nothing of the content. -/
theorem registered_item_cuts :
    (Step.register 0 (crates.typeKey item)).registration? (after built) =
        some (1, crates.typeKey item) ∧
      crates.IsLeaf ((after (.register 0 (crates.typeKey item) :: built)).registry 1) item ∧
      ∃ set, ((after (.register 0 (crates.typeKey item) :: built)).compiled query).outcome =
          .ok set ∧ ∃ f, set.fieldAt? [0] = some f ∧ f.selection = none := by
  have registers : (Step.register 0 (crates.typeKey item)).registration? (after built) =
      some (1, crates.typeKey item) := rfl
  have plain : ¬ Schema.IsPointer declared item := by
    rintro ⟨target, pointer⟩
    cases pointer
  have leaf : crates.IsLeaf ((after (.register 0 (crates.typeKey item) :: built)).registry 1) item :=
    isLeaf_of_registration plain registers
  obtain ⟨-, -, cuts⟩ := registration_cuts registers
  have done : ((after (.register 0 (crates.typeKey item) :: built)).compiled query).outcome =
      .ok ⟨[.leaf ⟨"content", none, []⟩, .leaf ⟨"spare", none, []⟩]⟩ := by
    have encoded : (query.query.metadata.encodeParameters query.query.encoder).outcome =
        .ok [] := rfl
    refine (Query.outcome_compile_of_ok encoded).trans ?_
    rw [Expansion.root_of_composite (j := crate) _ rfl, Expansion.expand_eq_mapM _ rfl]
    rfl
  refine ⟨registers, leaf, _, done, ?_⟩
  exact (cuts leaf []).2 query rfl _ done [0] content rfl rfl

/-- With boxed items registered it expands the content as before, which has the descriptor, and so
    the key, of items. -/
theorem registered_box_expands :
    (Step.register 0 (crates.typeKey boxed)).registration? (after built) =
        some (1, crates.typeKey boxed) ∧
      ¬ crates.IsLeaf ((after (.register 0 (crates.typeKey boxed) :: built)).registry 1) boxed ∧
      ((after (.register 0 (crates.typeKey boxed) :: built)).compiled query).outcome =
        .ok ⟨[.nested ⟨"content", none, []⟩ [.leaf ⟨"id", none, []⟩],
          .nested ⟨"spare", none, []⟩ [.leaf ⟨"id", none, []⟩]]⟩ := by
  have composite : crates.classify
      ((after (.register 0 (crates.typeKey boxed) :: built)).registry 1) boxed =
        some (.composite boxed) := rfl
  refine ⟨rfl, ?_, ?_⟩
  · rintro ⟨key, leaf⟩
    exact absurd (composite.symm.trans leaf) (by simp)
  have distinct : ∀ a b, ((declared a).1 == (declared b).1) = true → a = b := by decide
  have pointer : Schema.IsPointer declared boxed := ⟨1, rfl⟩
  have before : ((after built).compiled query).outcome =
      .ok ⟨[.nested ⟨"content", none, []⟩ [.leaf ⟨"id", none, []⟩],
        .nested ⟨"spare", none, []⟩ [.leaf ⟨"id", none, []⟩]]⟩ := by
    have encoded : (query.query.metadata.encodeParameters query.query.encoder).outcome =
        .ok [] := rfl
    exact (Query.outcome_compile_of_ok encoded).trans (root_of_unregistered _ rfl rfl rfl rfl)
  exact (compiled_of_pointer_registration distinct pointer rfl rfl query).trans before

end crates

end TypedQuery
