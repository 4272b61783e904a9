import TypedQuery.Proofs.Query.Changes
import TypedQuery.Proofs.Query.Compositional
import TypedQuery.Proofs.Query.Cycles
import TypedQuery.Proofs.Query.Encoding

/-!
# `Attachment` — what is attached to a member shows at its field and nowhere else

A member of the root is selected by a text, and then its field is changed, any number of times. By
induction a query carries for an identity the changes of those selectors that found it
(`Carries.attachAll`).

Metadata is looked up by identity at every depth of an expansion. That none of it shows below the
root (`attachments_land`) takes two facts: a member is owned by the key of its composite, and a root
that compiles meets its own key nowhere below.
-/

set_option autoImplicit false

namespace TypedQuery

open Outcome

/-- The text that selects a member, and what is then done to its field. -/
structure Attachment where
  selector : String
  changes : List Change

namespace Attachment

variable {n : Nat}

/-- The selector finds a member of a kind. -/
def finds (d : Descriptor n) (kind : Member n → Bool) (a : Attachment) : Bool :=
  match Selector.resolve d a.selector with
  | .ok member => kind member
  | .error _ => false

/-- The changes that attachments to one field add up to, after others. -/
def total (before : List Change) : List Attachment → List Change
  | [] => before
  | a :: rest => total (before ++ Change.carriedOut before a.changes) rest

/-- What is attached to a member of a type: the changes carried out where its name is selected. -/
def attachedTo (d : Descriptor n) (m : Member n) (attachments : List Attachment) : List Change :=
  total [] (attachments.filter (finds d fun found => found.name == m.name))

/-- What a selector finds depends on the members of its type alone. -/
theorem finds_congr {d : Descriptor n} {kind kind' : Member n → Bool}
    (same : ∀ m ∈ d.members, kind m = kind' m) (a : Attachment) :
    a.finds d kind = a.finds d kind' := by
  unfold finds
  cases h : Selector.resolve d a.selector with
  | error error => rfl
  | ok m => exact same m (Selector.mem_of_resolve h)

/-- A selector finds no member of a kind that its type has none of. -/
theorem finds_eq_false {d : Descriptor n} {kind : Member n → Bool}
    (missed : ∀ m ∈ d.members, kind m = false) (a : Attachment) : a.finds d kind = false := by
  unfold finds
  cases h : Selector.resolve d a.selector with
  | error error => rfl
  | ok m => exact missed m (Selector.mem_of_resolve h)

end Attachment

/-! ## What attachments leave -/

namespace Query

variable {S : Schema} {q : Query S} {id : FieldId} {before : List Change}

/-- A query without metadata. -/
def new (root : S.Ref) (encoder : Encoder) (config : QueryConfig) : Query S :=
  ⟨root, encoder, config, .empty⟩

/-- Selects a member and changes its field; a selector that finds none changes nothing. -/
def attach (q : Query S) (a : Attachment) : Query S :=
  match q.select a.selector with
  | .ok id => q.changeAll id a.changes
  | .error _ => q

/-- The query after attachments, one after the other. -/
def attachAll (q : Query S) (attachments : List Attachment) : Query S :=
  attachments.foldl attach q

theorem carries_new (root : S.Ref) (encoder : Encoder) (config : QueryConfig) (id : FieldId) :
    (new root encoder config).Carries id [] := ⟨rfl, rfl⟩

theorem attach_eq (q : Query S) (a : Attachment) :
    q.attach a = { q with metadata := (q.attach a).metadata } := by
  unfold Query.attach
  cases q.select a.selector with
  | error error => rfl
  | ok id => exact q.changeAll_eq id a.changes

/-- Attachments change the metadata of a query and nothing else. -/
theorem attachAll_eq (q : Query S) (attachments : List Attachment) :
    q.attachAll attachments = { q with metadata := (q.attachAll attachments).metadata } := by
  induction attachments generalizing q with
  | nil => rfl
  | cons a rest ih =>
    show (q.attach a).attachAll rest = { q with metadata := ((q.attach a).attachAll rest).metadata }
    rw [ih (q.attach a), attach_eq q a]

/-- An attachment is added to what the field carries that its selector finds. -/
theorem Carries.attach (carries : q.Carries id before) (a : Attachment) :
    (q.attach a).Carries id
      (if a.finds q.descriptor (fun m => id == m.id) then
        before ++ Change.carriedOut before a.changes else before) := by
  unfold Query.attach select Attachment.finds
  cases Selector.resolve q.descriptor a.selector with
  | error error => exact carries
  | ok m =>
    show (q.changeAll m.id a.changes).Carries id (if (id == m.id) = true then _ else _)
    split
    · rename_i same
      exact carries.changeAll same a.changes
    · rename_i apart
      exact carries.changeAll_of_ne (Bool.eq_false_iff.2 apart) a.changes

/-- **A query carries for an identity what was carried out where a selector found it.** -/
theorem Carries.attachAll (carries : q.Carries id before) (attachments : List Attachment) :
    (q.attachAll attachments).Carries id
      (Attachment.total before
        (attachments.filter (Attachment.finds q.descriptor fun m => id == m.id))) := by
  induction attachments generalizing q before with
  | nil => exact carries
  | cons a rest ih =>
    have after := ih (carries.attach a)
    have same : (q.attach a).descriptor = q.descriptor := by rw [attach_eq q a]; rfl
    rw [same] at after
    show ((q.attach a).attachAll rest).Carries id _
    rw [List.filter_cons]
    split
    · rename_i found
      rwa [if_pos found] at after
    · rename_i missed
      rwa [if_neg missed] at after

end Query

/-! ## Where attachments show -/

variable {S : Schema}

/-- Every member is owned by the key of its composite. -/
def Schema.MembersOwned (S : Schema) : Prop :=
  ∀ i, ∀ m ∈ (S.descriptor i).members, (m.id.owner == S.key i) = true

/-- Members of one composite are told apart by their names. -/
theorem Schema.MembersOwned.beq_id (owned : S.MembersOwned) {i : S.Ref} {m m' : Member S.size}
    (hm : m ∈ (S.descriptor i).members) (hm' : m' ∈ (S.descriptor i).members) :
    (m.id == m'.id) = (m'.name == m.name) := by
  have owner : (m.id.owner == m'.id.owner) = true :=
    BEq.trans (owned i m hm) (BEq.symm (owned i m' hm'))
  show (m.id.owner == m'.id.owner && m.id.name == m'.id.name) = _
  rw [owner, Bool.true_and]
  exact BEq.comm

/-- Members of composites with different keys have different identities. -/
theorem Schema.MembersOwned.beq_id_of_key_ne (owned : S.MembersOwned) {i j : S.Ref}
    {m m' : Member S.size} (apart : (S.key i == S.key j) = false)
    (hm : m ∈ (S.descriptor i).members) (hm' : m' ∈ (S.descriptor j).members) :
    (m'.id == m.id) = false := by
  apply Bool.eq_false_iff.2
  intro same
  have owner : (m'.id.owner == m.id.owner) = true := (Bool.and_eq_true_iff.1 same).1
  have keys : (S.key i == S.key j) = true :=
    BEq.trans (BEq.symm (owned i m hm)) (BEq.trans (BEq.symm owner) (owned j m' hm'))
  exact absurd keys (by simp [apart])

/-- A field shows what was attached to it: the last alias, unless that is blank, and the literals of
    the parameters in order. -/
structure SelectionField.Shows (f : SelectionField) (encoder : Encoder) (changes : List Change) :
    Prop where
  aliasName : f.aliasName =
    (Change.lastAlias changes).filter fun aliasName => !Text.isBlankText aliasName.toList
  arguments : encoder.Literals (Change.parameters changes) f.arguments

/-- The field of a member shows what the query carries for the member. -/
theorem Query.Carries.shows {q : Query S} {e : Expansion S} {m : Member S.size}
    {f : SelectionField} {changes : List Change} (carries : q.Carries m.id changes)
    (metadata : e.metadata = q.metadata)
    (literals : ∀ id, q.encoder.Literals (q.metadata.storedParameters id)
      ((e.arguments.lookup id).getD []))
    (head : f.head = e.fieldHead m) : f.Shows q.encoder changes := by
  constructor
  · unfold SelectionField.aliasName
    rw [head, ← carries.aliasName, ← metadata]
    rfl
  · unfold SelectionField.arguments
    rw [head, ← carries.parameters]
    exact literals m.id

/-- Where nothing was attached, nothing shows. -/
theorem SelectionField.Shows.of_nil {f : SelectionField} {encoder : Encoder}
    (h : f.Shows encoder []) : f.aliasName = none ∧ f.arguments = [] :=
  ⟨h.aliasName, List.forall₂_nil_left_iff.1 h.arguments⟩

/-- Of a member selected at the root a query carries what is attached to the member's name. -/
theorem Query.carries_of_selectedMembers (owned : S.MembersOwned) {registry : Registry}
    (root : S.Ref) (encoder : Encoder) (config : QueryConfig) (attachments : List Attachment)
    {m : Member S.size} (selected : m ∈ S.selectedMembers registry root) :
    ((Query.new root encoder config).attachAll attachments).Carries m.id
      (Attachment.attachedTo (S.descriptor root) m attachments) := by
  obtain ⟨c, composite, mem⟩ := Schema.composite_of_selectedMembers selected
  -- selectors look among the root's own members: of a wrapper there are none, and any other root
  -- that has some is the composite itself
  have byName : ∀ found ∈ (S.descriptor root).members,
      (m.id == found.id) = (found.name == m.name) := by
    intro found hfound
    obtain rfl := Schema.eq_of_classifyWithin_of_mem hfound composite
    exact owned.beq_id mem hfound
  have carries := (Query.carries_new root encoder config m.id).attachAll attachments
  unfold Attachment.attachedTo
  rw [← List.filter_congr fun a _ => a.finds_congr byName]
  exact carries

/-- Of a member at a deeper place it carries nothing. -/
theorem Query.carries_of_memberAt? (owned : S.MembersOwned) {registry : Registry}
    (root : S.Ref) (encoder : Encoder) (config : QueryConfig) (attachments : List Attachment)
    (forward : ∀ route, ¬ S.ComesBack registry root route) {places : List Nat}
    (deep : 2 ≤ places.length) {m : Member S.size}
    (found : S.memberAt? registry root places = some m) :
    ((Query.new root encoder config).attachAll attachments).Carries m.id [] := by
  obtain ⟨c, route, composite, isRoute, length, mem⟩ := Schema.exists_route_of_memberAt? found
  have moved : route ≠ [] := by
    rintro rfl
    rw [← length] at deep
    exact absurd deep (by simp)
  -- with the key of the root's composite, the route to the member would come back
  have apart : (S.key c == S.key (Schema.endOf c route)) = false := by
    apply Bool.eq_false_iff.2
    intro same
    exact forward route ⟨c, composite, isRoute, Schema.reenters_of_key_eq moved same⟩
  have missed : ∀ selected ∈ (S.descriptor root).members, (m.id == selected.id) = false := by
    intro selected hselected
    obtain rfl := Schema.eq_of_classifyWithin_of_mem hselected composite
    exact owned.beq_id_of_key_ne apart hselected mem
  have carries := (Query.carries_new root encoder config m.id).attachAll attachments
  rw [List.filter_eq_nil_iff.2 fun a _ => Bool.eq_false_iff.1 (a.finds_eq_false missed)] at carries
  exact carries

/-- **Attachments land on the selected members of the root and nowhere else.** Where compiling
    succeeds, the fields of the root are those of its members, one for one, and each shows what was
    carried out on the member of that name; a field of any deeper place shows nothing. -/
theorem attachments_land (owned : S.MembersOwned) (root : S.Ref) (encoder : Encoder)
    (config : QueryConfig) (attachments : List Attachment) (registry : Registry)
    {compiled : Compiled} {set : SelectionSet}
    (run : ((Query.new root encoder config).attachAll attachments).compile registry = compiled)
    (done : compiled.outcome = .ok set) :
    set.fields.length = (S.selectedMembers compiled.registry root).length ∧
    (∀ (k : Nat) (m : Member S.size), (S.selectedMembers compiled.registry root)[k]? = some m →
      ∃ f : SelectionField, set.fields[k]? = some f ∧
        f.Shows encoder (Attachment.attachedTo (S.descriptor root) m attachments)) ∧
    ∀ places f, 2 ≤ places.length → set.fieldAt? places = some f →
      f.aliasName = none ∧ f.arguments = [] := by
  subst run
  have settings := (Query.new root encoder config).attachAll_eq attachments
  obtain ⟨e, hregistry, hmetadata, literals, expanded⟩ := Query.exists_expansion_of_ok done
  rw [← hregistry]
  have sameEncoder : ((Query.new root encoder config).attachAll attachments).encoder = encoder := by
    rw [settings]
    rfl
  have sameRoot : ((Query.new root encoder config).attachAll attachments).root = root := by
    rw [settings]
    rfl
  rw [sameRoot] at expanded
  refine ⟨?_, ?_, ?_⟩
  · exact (e.forall₂_of_root expanded).length_eq.symm
  · intro k m hm
    obtain ⟨f, hf, head, -⟩ := exists_getElem?_of_forall₂ (e.forall₂_of_root expanded) hm
    have carries := Query.carries_of_selectedMembers owned root encoder config attachments
      (List.mem_of_getElem? hm)
    exact ⟨f, hf, sameEncoder ▸ carries.shows hmetadata literals head⟩
  · intro places f deep hf
    have produced := e.rel_fieldAt?_of_root expanded places
    rw [hf] at produced
    cases found : S.memberAt? e.registry root places with
    | none => rw [found] at produced; cases produced
    | some m =>
      rw [found, Option.rel_some_some] at produced
      have carries := Query.carries_of_memberAt? owned root encoder config attachments
        (e.not_comesBack_of_root expanded) deep found
      exact (carries.shows hmetadata literals produced.head).of_nil

namespace pairs

/-- An alias set twice, a parameter whose name is taken, and a name that a pair does not have. -/
def attachments : List Attachment :=
  [⟨"foo", [.setAlias "one", .setAlias "first"]⟩,
    ⟨" bar ", [.addParameter "limit" (.int 10), .addParameter "sorted" (.bool true),
      .addParameter "limit" (.int 20), .setAlias "all"]⟩,
    ⟨"id", [.setAlias "number"]⟩]

/-- A query over pairs. -/
def query : Query pairs := (Query.new pair .default ⟨.preserve⟩).attachAll attachments

/-- The selection of the query. -/
def attachedSelection : SelectionSet :=
  ⟨[.nested ⟨"foo", some "first", []⟩ [.leaf ⟨"id", none, []⟩],
    .nested ⟨"bars", none, [("limit", "10"), ("sorted", "true")]⟩ [.leaf ⟨"id", none, []⟩]]⟩

theorem outcome_compile_query : (query.compile .builtin).outcome = .ok attachedSelection := by
  have encoded : (query.metadata.encodeParameters query.encoder).outcome =
      .ok [(pairBar.id, [("limit", "10"), ("sorted", "true")])] := rfl
  rw [Query.outcome_compile_of_ok encoded, Query.registry_compile_of_isPure Encoder.isPure_default]
  exact root_eq ..

/-- The list of items shows the parameters that were not refused, and no item shows anything. -/
theorem attachments_land_on_pair :
    pairs.MembersOwned ∧ (query.compile .builtin).outcome = .ok attachedSelection ∧
      (∃ f : SelectionField, attachedSelection.fields[1]? = some f ∧
        f.Shows .default [.addParameter "limit" (.int 10), .addParameter "sorted" (.bool true)]) ∧
      ∀ places f, 2 ≤ places.length → attachedSelection.fieldAt? places = some f →
        f.aliasName = none ∧ f.arguments = [] := by
  have owned : pairs.MembersOwned := by unfold Schema.MembersOwned; decide
  obtain ⟨-, lands, nowhere⟩ := attachments_land owned pair .default ⟨.preserve⟩ attachments
    .builtin rfl outcome_compile_query
  exact ⟨owned, outcome_compile_query, lands 1 pairBar rfl, nowhere⟩

end pairs

end TypedQuery
