import Mathlib.Data.List.Basic
import TypedQuery.Text.Name

/-!
# `Reader.list` — reading back what was joined

Texts here are joined from pieces: a separator stands between two pieces and a closing character
behind the last. `Reader.list` takes such a text apart without knowing how long a piece is: the
reader of items says where one ends, and the character found there says whether another follows.

Two facts about a reader are carried from the items to the list. `Reads` says that a text is read
as a thing and that **nothing of what follows it is touched** (`reads_list`); `Exact` says that
whatever is read is the text of what comes out (`exact_list`). Lists and objects of literals,
arguments, and the fields of a selection are all lists in this sense.
-/

set_option autoImplicit false

namespace TypedQuery

variable {α : Type}

/-- Reads a thing off the start of a text and leaves the rest of the text. -/
abbrev Reader (α : Type) := List Char → Option (α × List Char)

/-- The text ends, or one of the allowed characters follows. -/
def Follows (allowed rest : List Char) : Prop := ∀ c ∈ rest.head?, c ∈ allowed

theorem follows_nil (allowed : List Char) : Follows allowed [] :=
  fun _ mem => absurd mem nofun

theorem follows_cons {allowed : List Char} {c : Char} (mem : c ∈ allowed) (rest : List Char) :
    Follows allowed (c :: rest) := by
  intro d hd
  obtain rfl := Option.some.inj hd
  exact mem

theorem Follows.mono {allowed more rest : List Char} (h : Follows allowed rest)
    (sub : allowed ⊆ more) : Follows more rest := fun c mem => sub (h c mem)

theorem Follows.head?_ne {allowed rest : List Char} (h : Follows allowed rest) {c : Char}
    (outside : c ∉ allowed) : rest.head? ≠ some c := fun head => outside (h c head)

/-- Where a run ends: none of the characters that may follow belongs to it. -/
theorem Follows.stops {allowed rest : List Char} (h : Follows allowed rest) {p : Char → Bool}
    (outside : allowed.any p = false) : ∀ c ∈ rest.head?, p c = false :=
  fun c head => Bool.eq_false_iff.2 (List.any_eq_false.1 outside c (h c head))

theorem Follows.append {allowed text rest : List Char} (h : Follows allowed text)
    (after : Follows allowed rest) : Follows allowed (text ++ rest) := by
  cases text with
  | nil => exact after
  | cons c text => exact follows_cons (h c rfl) _

/-- The text opens with a character of the kind. -/
def Opens (kind : Char → Prop) (text : List Char) : Prop := ∃ c ∈ text.head?, kind c

theorem Opens.mono {kind other : Char → Prop} {text : List Char} (h : Opens kind text)
    (sub : ∀ c, kind c → other c) : Opens other text := by
  obtain ⟨c, head, here⟩ := h
  exact ⟨c, head, sub c here⟩

theorem Opens.append {kind : Char → Prop} {text : List Char} (h : Opens kind text)
    (rest : List Char) : Opens kind (text ++ rest) := by
  obtain ⟨c, head, here⟩ := h
  refine ⟨c, ?_, here⟩
  rw [List.head?_append, head]
  rfl

theorem Opens.length_pos {kind : Char → Prop} {text : List Char} (h : Opens kind text) :
    0 < text.length := by
  obtain ⟨c, head, -⟩ := h
  exact List.length_pos_of_mem (List.mem_of_mem_head? head)

namespace Reader

/-- Whatever allowed follows it, the text is read as one thing, and no more is read. -/
def Reads (read : Reader α) (allowed text : List Char) (x : α) : Prop :=
  ∀ rest, Follows allowed rest → read (text ++ rest) = some (x, rest)

/-- What is read is the text of the thing that comes out. -/
def Exact (read : Reader α) (text : α → List Char) : Prop :=
  ∀ cs x rest, read cs = some (x, rest) → cs = text x ++ rest

theorem Reads.mono {read : Reader α} {allowed fewer text : List Char} {x : α}
    (h : read.Reads allowed text x) (sub : fewer ⊆ allowed) : read.Reads fewer text x :=
  fun rest follows => h rest (follows.mono sub)

/-! ## Runs of characters, and names -/

section Runs

variable {p : Char → Bool} {cs rest : List Char}

theorem takeWhile_run (run : ∀ c ∈ cs, p c = true) (stops : ∀ c ∈ rest.head?, p c = false) :
    (cs ++ rest).takeWhile p = cs := by
  rw [List.takeWhile_append_of_pos run]
  cases rest with
  | nil => exact List.append_nil cs
  | cons c rest => rw [List.takeWhile_cons_of_neg (by simp [stops c rfl]), List.append_nil]

theorem dropWhile_run (run : ∀ c ∈ cs, p c = true) (stops : ∀ c ∈ rest.head?, p c = false) :
    (cs ++ rest).dropWhile p = rest := by
  rw [List.dropWhile_append_of_pos run]
  cases rest with
  | nil => rfl
  | cons c rest => exact List.dropWhile_cons_of_neg (by simp [stops c rfl])

end Runs

/-- Reads a name, as far as it goes. -/
def name : Reader String := fun cs =>
  if Text.isName (cs.takeWhile Text.isNameContinue) then
    some (String.ofList (cs.takeWhile Text.isNameContinue), cs.dropWhile Text.isNameContinue)
  else none

theorem name_append {n : String} (isName : Text.isName n.toList = true) {rest : List Char}
    (stops : ∀ c ∈ rest.head?, Text.isNameContinue c = false) :
    name (n.toList ++ rest) = some (n, rest) := by
  have run := List.all_eq_true.1 (Text.all_isNameContinue_of_isName isName)
  unfold name
  rw [takeWhile_run run stops, dropWhile_run run stops, if_pos isName, String.ofList_toList]

theorem exact_name : name.Exact String.toList := by
  intro cs n rest read
  unfold name at read
  split at read
  · obtain ⟨rfl, rfl⟩ := Prod.mk.inj (Option.some.inj read)
    rw [String.toList_ofList, List.takeWhile_append_dropWhile]
  · exact absurd read nofun

theorem eq_cons_of_head? {c : Char} {cs : List Char} (head : cs.head? = some c) :
    cs = c :: cs.tail := by
  cases cs with
  | nil => exact absurd head nofun
  | cons d cs => rw [Option.some.inj head, List.tail_cons]

/-- Passes one given character. -/
def expect (c : Char) : List Char → Option (List Char)
  | [] => none
  | d :: rest => if d = c then some rest else none

theorem expect_cons (c : Char) (rest : List Char) : expect c (c :: rest) = some rest :=
  if_pos rfl

theorem eq_cons_of_expect {c : Char} {cs rest : List Char} (h : expect c cs = some rest) :
    cs = c :: rest := by
  unfold expect at h
  split at h
  · exact absurd h nofun
  · split at h
    · rename_i same
      rw [same, Option.some.inj h]
    · exact absurd h nofun

/-- Reads a name, a colon and a value. -/
def entry (value : Reader α) : Reader (String × α) := fun cs => do
  let key ← name cs
  let cs ← expect ':' key.2
  let x ← value cs
  some ((key.1, x.1), x.2)

theorem reads_entry {value : Reader α} {allowed text : List Char} {x : α} {key : String}
    (isName : Text.isName key.toList = true) (reads : value.Reads allowed text x) :
    (entry value).Reads allowed (key.toList ++ ':' :: text) (key, x) := by
  intro rest follows
  have stops : ∀ c ∈ (':' :: (text ++ rest)).head?, Text.isNameContinue c = false := by
    intro c hc
    obtain rfl := Option.some.inj hc
    decide
  rw [List.append_assoc, List.cons_append]
  refine Option.bind_eq_some_iff.2 ⟨_, name_append isName stops, ?_⟩
  refine Option.bind_eq_some_iff.2 ⟨_, expect_cons ':' _, ?_⟩
  exact Option.bind_eq_some_iff.2 ⟨_, reads rest follows, rfl⟩

theorem exact_entry {value : Reader α} {text : α → List Char} (exact : value.Exact text) :
    (entry value).Exact fun e => e.1.toList ++ ':' :: text e.2 := by
  intro cs e rest read
  obtain ⟨⟨key, afterKey⟩, named, read⟩ := Option.bind_eq_some_iff.1 read
  obtain ⟨afterColon, passed, read⟩ := Option.bind_eq_some_iff.1 read
  obtain ⟨⟨x, afterValue⟩, valued, read⟩ := Option.bind_eq_some_iff.1 read
  obtain ⟨rfl, rfl⟩ := Prod.mk.inj (Option.some.inj read)
  have colon : afterKey = ':' :: afterColon := eq_cons_of_expect passed
  have whole : cs = key.toList ++ ':' :: (text x ++ afterValue) := by
    rw [exact_name cs key afterKey named, colon, exact _ x afterValue valued]
  rw [whole, ← List.cons_append, ← List.append_assoc]

/-! ## Lists -/

/-- The pieces one after the other, with a separator before each; before the first only if it
    does not open the list. -/
def joined (separator : Char) : Bool → List (List Char) → List Char
  | _, [] => []
  | opening, piece :: rest =>
    (if opening then piece else separator :: piece) ++ joined separator false rest

theorem joined_eq_intercalate (separator : Char) (pieces : List (List Char)) :
    joined separator true pieces = [separator].intercalate pieces := by
  cases pieces with
  | nil => rfl
  | cons piece rest =>
    induction rest generalizing piece with
    | nil => simp [joined, List.intercalate]
    | cons next rest ih =>
      have rest_eq : joined separator true (next :: rest) =
        next ++ joined separator false rest := rfl
      rw [List.intercalate_cons_cons, ← ih next, rest_eq]
      simp [joined]

theorem length_le_of_mem_joined {pieces : List (List Char)} {piece : List Char}
    (separator : Char) (mem : piece ∈ pieces) (opening : Bool) :
    piece.length ≤ (joined separator opening pieces).length := by
  induction pieces generalizing opening with
  | nil => exact absurd mem List.not_mem_nil
  | cons first others ih =>
    rw [joined, List.length_append]
    rcases List.mem_cons.1 mem with rfl | mem
    · split
      · omega
      · rw [List.length_cons]
        omega
    · exact Nat.le_trans (ih mem false) (Nat.le_add_left ..)

/-- Passes the separator, which does not stand before the item that opens a list. -/
def pastSeparator (separator : Char) (opening : Bool) (cs : List Char) : Option (List Char) :=
  if opening then some cs else expect separator cs

/-- Reads items up to the closing character, which is passed; `fuel` bounds their number. -/
def many (item : Reader α) (separator close : Char) : Nat → Bool → Reader (List α)
  | 0, _, _ => none
  | fuel + 1, opening, cs =>
    if cs.head? = some close then some ([], cs.tail)
    else do
      let cs ← pastSeparator separator opening cs
      let x ← item cs
      let xs ← many item separator close fuel false x.2
      some (x.1 :: xs.1, xs.2)

/-- Reads a list behind its opening character. -/
def list (item : Reader α) (separator close : Char) : Reader (List α) := fun cs =>
  many item separator close (cs.length + 1) true cs

section Lists

variable {β : Type} {item : Reader α} {separator close : Char} {text : β → List Char}
  {value : β → α}

/-- Read off the joined pieces, the items are read one by one: the induction is on the pieces, and
    before the separator of the next piece, or the closing character, the item reader stops. -/
theorem many_joined (apart : separator ≠ close) (rest : List Char) (pieces : List β)
    (opening : Bool) {fuel : Nat} (enough : pieces.length < fuel)
    (reads : ∀ p ∈ pieces, item.Reads [separator, close] (text p) (value p))
    (opens : ∀ p ∈ pieces, Opens (· ≠ close) (text p)) :
    many item separator close fuel opening
        (joined separator opening (pieces.map text) ++ close :: rest) =
      some (pieces.map value, rest) := by
  induction pieces generalizing opening fuel with
  | nil =>
    obtain ⟨fuel, rfl⟩ := Nat.exists_eq_succ_of_ne_zero (Nat.ne_of_gt enough)
    exact if_pos rfl
  | cons p pieces ih =>
    obtain ⟨fuel, rfl⟩ := Nat.exists_eq_succ_of_ne_zero (Nat.ne_zero_of_lt enough)
    have tail := ih false (Nat.lt_of_succ_lt_succ enough)
      (fun q mem => reads q (List.mem_cons_of_mem _ mem))
      (fun q mem => opens q (List.mem_cons_of_mem _ mem))
    -- what follows the first piece
    generalize after : joined separator false (pieces.map text) ++ close :: rest = following
      at tail
    have follows : Follows [separator, close] following := by
      rw [← after]
      cases pieces with
      | nil => exact follows_cons (by simp) rest
      | cons q pieces => exact follows_cons (by simp) _
    have first := reads p List.mem_cons_self following follows
    have whole : joined separator opening ((p :: pieces).map text) ++ close :: rest =
        (if opening then text p else separator :: text p) ++ following := by
      rw [← after, ← List.append_assoc]
      rfl
    have start : pastSeparator separator opening
        ((if opening then text p else separator :: text p) ++ following) =
          some (text p ++ following) := by
      cases opening with
      | true => rfl
      | false => exact expect_cons separator _
    have unclosed :
        ((if opening then text p else separator :: text p) ++ following).head? ≠ some close := by
      cases opening with
      | true =>
        obtain ⟨c, head, ne⟩ := (opens p List.mem_cons_self).append following
        rw [if_pos rfl, head]
        exact fun h => ne (Option.some.inj h)
      | false => exact fun h => apart (Option.some.inj h)
    rw [whole, many, if_neg unclosed]
    refine Option.bind_eq_some_iff.2 ⟨_, start, ?_⟩
    refine Option.bind_eq_some_iff.2 ⟨_, first, ?_⟩
    exact Option.bind_eq_some_iff.2 ⟨_, tail, rfl⟩

theorem length_le_length_joined (pieces : List β) (opening : Bool)
    (opens : ∀ p ∈ pieces, Opens (· ≠ close) (text p)) :
    pieces.length ≤ (joined separator opening (pieces.map text)).length := by
  induction pieces generalizing opening with
  | nil => exact Nat.le_refl 0
  | cons p pieces ih =>
    have tail := ih false fun q mem => opens q (List.mem_cons_of_mem _ mem)
    have positive := (opens p List.mem_cons_self).length_pos
    have here : (text p).length ≤ (if opening then text p else separator :: text p).length := by
      split <;> simp
    rw [List.map_cons, joined, List.length_append, List.length_cons]
    omega

/-- **Joined pieces are read as their items**, whatever follows, if each piece is read as its item
    before a separator and before the closing character. -/
theorem reads_list (apart : separator ≠ close) {pieces : List β}
    (reads : ∀ p ∈ pieces, item.Reads [separator, close] (text p) (value p))
    (opens : ∀ p ∈ pieces, Opens (· ≠ close) (text p)) (rest : List Char) :
    list item separator close (joined separator true (pieces.map text) ++ close :: rest) =
      some (pieces.map value, rest) := by
  have enough : pieces.length ≤ (joined separator true (pieces.map text)).length :=
    length_le_length_joined pieces true opens
  refine many_joined apart rest pieces true ?_ reads opens
  rw [List.length_append]
  omega

theorem exact_many {text : α → List Char} (exact : item.Exact text) (fuel : Nat) (opening : Bool) :
    (many item separator close fuel opening).Exact fun xs =>
      joined separator opening (xs.map text) ++ [close] := by
  induction fuel generalizing opening with
  | zero => exact fun cs xs rest read => absurd read nofun
  | succ fuel ih =>
    intro cs xs rest read
    rw [many] at read
    split at read
    · rename_i closes
      obtain ⟨rfl, rfl⟩ := Prod.mk.inj (Option.some.inj read)
      exact eq_cons_of_head? closes
    · obtain ⟨afterSeparator, passed, read⟩ := Option.bind_eq_some_iff.1 read
      obtain ⟨⟨x, afterItem⟩, first, read⟩ := Option.bind_eq_some_iff.1 read
      obtain ⟨⟨others, afterOthers⟩, tail, read⟩ := Option.bind_eq_some_iff.1 read
      obtain ⟨rfl, rfl⟩ := Prod.mk.inj (Option.some.inj read)
      have here := exact _ x afterItem first
      rw [ih false afterItem others afterOthers tail] at here
      cases opening with
      | true =>
        obtain rfl := Option.some.inj passed
        rw [here]
        simp [joined]
      | false =>
        rw [eq_cons_of_expect passed, here]
        simp [joined]

/-- **What is read as a list is the joined texts of its items**, if the item reader is exact. -/
theorem exact_list {text : α → List Char} (exact : item.Exact text) :
    (list item separator close).Exact fun xs =>
      joined separator true (xs.map text) ++ [close] :=
  fun cs => exact_many exact (cs.length + 1) true cs

end Lists

end Reader

end TypedQuery
