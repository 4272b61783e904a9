import TypedQuery.Derive.Declaration
import TypedQuery.Proofs.Outcomes
import TypedQuery.Proofs.Text.Identifiers

/-!
# `IsWord` — the names of declared fields are identifiers

Whatever text a declaration is read from, a field of it is called by an identifier, behind the mark of a
raw one or not: the reader of tokens cuts nothing else out of the text as a word
(`words_of_ofText`), and the reader of names takes a whole word and no part of one. The underscore alone
counts as a word here, as it does in the source.

Groups are kept aside while they are read, each with what stands in front of it, so the invariant of the
reader of tokens speaks of the frame that is open and of all the frames around it.
-/

set_option autoImplicit false

namespace TypedQuery.Derive

/-- An identifier, behind the mark of a raw one or not. -/
def IsWord (word : String) : Prop := Text.isIdentifier (plainName word).toList = true

instance (word : String) : Decidable (IsWord word) := inferInstanceAs (Decidable (_ = true))

/-- Every word among the tokens, outside of groups, is a word. -/
def Words (tokens : List SourceToken) : Prop := ∀ word, .word word ∈ tokens → IsWord word

theorem words_append {tokens others : List SourceToken} (h : Words tokens) (h' : Words others) :
    Words (tokens ++ others) := fun word mem => (List.mem_append.1 mem).elim (h word) (h' word)

/-! ## Words of a text -/

namespace Source

variable {cs after : List Char}

theorem exists_word_of_afterWord? (found : afterWord? cs = some after) :
    ∃ word, cs = word ++ after ∧ Text.isIdentifier word = true := by
  cases cs with
  | nil => simp [afterWord?] at found
  | cons c rest =>
    rw [afterWord?] at found
    split at found
    · rename_i start
      obtain rfl := Option.some.inj found
      refine ⟨c :: rest.takeWhile Text.isIdentifierContinue, ?_, ?_⟩
      · rw [List.cons_append, List.takeWhile_append_dropWhile]
      · have continues : (rest.takeWhile Text.isIdentifierContinue).all Text.isIdentifierContinue :=
          List.all_eq_true.2 fun d mem => List.mem_takeWhile_imp mem
        simp [Text.isIdentifier, start, continues]
    · simp at found

theorem exists_word_of_afterMarkedWord? (found : afterMarkedWord? cs = some after) :
    ∃ word, cs = word ++ after ∧ Text.isIdentifier (Text.unmarked word) = true := by
  unfold afterMarkedWord? at found
  split at found
  · rename_i rest
    obtain ⟨after', behind, allowed⟩ := Option.bind_eq_some_iff.1 found
    split at allowed
    · simp at allowed
    · obtain rfl := Option.some.inj allowed
      obtain ⟨word, rfl, identifier⟩ := exists_word_of_afterWord? behind
      exact ⟨'r' :: '#' :: word, rfl, identifier⟩
  · obtain ⟨word, whole, identifier⟩ := exists_word_of_afterWord? found
    refine ⟨word, whole, ?_⟩
    rw [Text.unmarked_of_isIdentifier identifier]
    exact identifier

theorem isWord_of_token? {word : String} {rest : List Char}
    (found : token? cs = some (.word word, rest)) : IsWord word := by
  unfold token? at found
  split at found
  · exact absurd found (by simp)
  · split at found
    · simp at found
    · split at found
      · split at found
        · split at found <;> simp at found
        · simp at found
      · split at found
        · simp at found
        · obtain ⟨after, behind, same⟩ := Option.map_eq_some_iff.1 found
          obtain ⟨taken, whole, identifier⟩ := exists_word_of_afterMarkedWord? behind
          obtain ⟨cut, rfl⟩ := Prod.mk.inj same
          rw [whole] at cut
          simp at cut
          rw [IsWord, plainName, ← cut]
          simpa using identifier

/-! ## The reader of tokens -/

theorem Frame.words_push {frame : Frame} {tokens : List SourceToken} (h : Words frame.reversed)
    (h' : Words tokens) : Words (frame.push tokens).reversed := by
  refine words_append ?_ h
  intro word mem
  exact h' word (List.mem_reverse.1 mem)

theorem words_group (delimiter : Delimiter) (content : List SourceToken) :
    Words [.group delimiter content] := by
  intro word mem
  simp at mem

theorem words_documentation (inner : Bool) (text : List Char) :
    Words (documentationTokens inner text) := by
  intro word mem
  cases inner <;> simp [documentationTokens] at mem

theorem words_of_readTokens (fuel : Nat) (frame : Frame) (outer : List Frame) (cs : List Char)
    {tokens : List SourceToken} (here : Words frame.reversed)
    (around : ∀ f ∈ outer, Words f.reversed)
    (read : readTokens frame outer cs fuel = some tokens) : Words tokens := by
  induction fuel generalizing frame outer cs with
  | zero => simp [readTokens] at read
  | succ fuel ih =>
    unfold readTokens at read
    dsimp only at read
    split at read
    · -- documentation, which stands there as marks and a group
      exact ih _ _ _ (Frame.words_push here (words_documentation _ _)) around read
    · split at read
      · -- the end of the text
        split at read
        · obtain rfl := Option.some.inj read
          intro word mem
          exact here word (List.mem_reverse.1 mem)
        · simp at read
      · split at read
        · -- a group opens: the frame so far is one of those around it
          refine ih _ _ _ (fun word mem => absurd mem List.not_mem_nil) ?_ read
          exact List.forall_mem_cons.2 ⟨here, around⟩
        · -- a group closes: what is pushed is the group, which is no word
          split at read
          · simp at read
          · obtain ⟨outside, further⟩ := List.forall_mem_cons.1 around
            split at read
            · exact ih _ _ _ (Frame.words_push outside (words_group _ _)) further read
            · simp at read
        · -- a token by itself
          split at read
          · simp at read
          · rename_i token rest found
            refine ih _ _ _ (Frame.words_push here ?_) around read
            intro word mem
            obtain rfl := List.mem_singleton.1 mem
            exact isWord_of_token? found

end Source

/-- **Every word of a text is an identifier**, marked as raw or not. -/
theorem words_of_ofText {text : String} {tokens : List SourceToken}
    (read : SourceToken.ofText text = some tokens) : Words tokens :=
  Source.words_of_readTokens _ _ _ _ (fun _ mem => absurd mem List.not_mem_nil)
    (fun _ mem => absurd mem List.not_mem_nil) read

/-! ## Reading -/

namespace Reading

variable {α β : Type}

/-- Reading ends with the value. -/
def Gives (r : Reading α) (a : α) : Prop := r.run = some (.ok a)

theorem gives_readable_iff {value : Option α} {a : α} : (readable value).Gives a ↔ value = some a := by
  cases value <;> simp [Gives, readable]

theorem gives_pure_iff {a b : α} : (pure a : Reading α).Gives b ↔ a = b := by
  simp [Gives]

theorem not_gives_throw {e : DeriveError} {a : α} : ¬ (throw e : Reading α).Gives a := by
  simp [Gives]

theorem gives_bind_iff {r : Reading α} {f : α → Reading β} {b : β} :
    (r >>= f).Gives b ↔ ∃ a, r.Gives a ∧ (f a).Gives b := by
  unfold Gives
  rw [ExceptT.run_bind]
  cases r.run with
  | none => simp
  | some outcome => cases outcome <;> simp

theorem gives_map_iff {r : Reading α} {f : α → β} {b : β} :
    (f <$> r).Gives b ↔ ∃ a, r.Gives a ∧ f a = b := by
  rw [← bind_pure_comp, gives_bind_iff]
  simp only [gives_pure_iff]

theorem gives_mapM {f : α → Reading β} {xs : List α} {ys : List β} (h : (xs.mapM f).Gives ys) :
    List.Forall₂ (fun x y => (f x).Gives y) xs ys := by
  induction xs generalizing ys with
  | nil =>
    rw [List.mapM_nil, gives_pure_iff] at h
    exact h ▸ .nil
  | cons x rest ih =>
    rw [List.mapM_cons, gives_bind_iff] at h
    obtain ⟨y, first, h⟩ := h
    obtain ⟨zs, others, h⟩ := gives_bind_iff.1 h
    exact gives_pure_iff.1 h ▸ .cons first (ih others)

end Reading

open Reading

/-! ## Names -/

section Names

variable {tokens rest : List SourceToken} {name : String}

theorem mem_of_readName (read : readName tokens = .ok (name, rest)) : .word name ∈ tokens := by
  unfold readName at read
  split at read
  · split at read
    · simp at read
    · obtain ⟨rfl, -⟩ := Prod.mk.inj (Except.ok.inj read)
      exact List.mem_cons_self
  · simp at read

theorem afterRestriction_subset (tokens : List SourceToken) : afterRestriction tokens ⊆ tokens := by
  unfold afterRestriction
  split
  · split
    · exact List.subset_cons_self ..
    · exact List.Subset.refl _
  · exact List.subset_cons_self ..
  · exact List.Subset.refl _

theorem mem_of_readVisibleName {bare : Bool} (read : readVisibleName bare tokens = .ok (name, rest)) :
    .word name ∈ tokens := by
  unfold readVisibleName at read
  split at read
  · exact List.mem_cons_of_mem _ (afterRestriction_subset _ (mem_of_readName read))
  · exact mem_of_readName read

end Names

theorem isWord_of_readIdent {field : FieldText} {name : String} (h : field.readIdent.Gives name) :
    IsWord name := by
  unfold FieldText.readIdent at h
  obtain ⟨tokens, source, h⟩ := gives_bind_iff.1 h
  have words := words_of_ofText (gives_readable_iff.1 source)
  split at h
  · obtain rfl := gives_pure_iff.1 h
    decide
  · split at h
    · exact absurd h not_gives_throw
    · rename_i read
      obtain rfl := gives_pure_iff.1 h
      exact words _ (mem_of_readVisibleName read)
    · exact absurd h not_gives_throw

theorem isWord_of_readField {text : FieldText} {field : Field} (h : (text.read true).Gives field) :
    IsWord field.ident := by
  unfold FieldText.read at h
  obtain ⟨ident, named, h⟩ := gives_bind_iff.1 h
  obtain ⟨type, -, h⟩ := gives_bind_iff.1 h
  obtain ⟨attributes, -, h⟩ := gives_bind_iff.1 h
  obtain rfl := gives_pure_iff.1 h
  exact isWord_of_readIdent named

theorem isWord_of_readBody {body : BodyText} {fields : List Field}
    (h : body.read.Gives (.named fields)) : ∀ field ∈ fields, IsWord field.ident := by
  intro field mem
  cases body with
  | named texts =>
    obtain ⟨read, texts', same⟩ := gives_map_iff.1 h
    obtain rfl := Body.named.inj same
    obtain ⟨text, -, found⟩ := Outcome.exists_mem_of_forall₂ (gives_mapM texts').flip mem
    exact isWord_of_readField found
  | unit =>
    have same := gives_pure_iff.1 h
    simp at same
  | tuple texts | union texts | enum texts =>
    obtain ⟨_, -, same⟩ := gives_map_iff.1 h
    simp at same

/-- **The fields of a struct are called by identifiers**, whatever the declaration is read from. -/
theorem isWord_of_read {d : Declaration} {item : Item} {fields : List Field} (read : d.read.Gives item)
    (named : item.body = .named fields) : ∀ field ∈ fields, IsWord field.ident := by
  unfold Declaration.read at read
  obtain ⟨visibility, -, read⟩ := gives_bind_iff.1 read
  obtain ⟨ident, -, read⟩ := gives_bind_iff.1 read
  obtain ⟨generics, -, read⟩ := gives_bind_iff.1 read
  obtain ⟨predicates, -, read⟩ := gives_bind_iff.1 read
  obtain ⟨body, bodyRead, read⟩ := gives_bind_iff.1 read
  obtain ⟨attributes, -, read⟩ := gives_bind_iff.1 read
  obtain rfl := gives_pure_iff.1 read
  obtain rfl : body = .named fields := named
  exact isWord_of_readBody bodyRead

end TypedQuery.Derive
