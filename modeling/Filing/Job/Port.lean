/-!
What asking needs from below: a channel with one slot, a reply that is sent once, and tokens that tell to
stop. A port is a type of states with the operations on them. `Documented` says what their documentation
promises, and whatever is proved about asking rests on that alone. The plain versions are the ones that
run.
-/
namespace Filing

/-- What a look at something that may take its time tells. -/
inductive Poll (α : Type) where
  | pending
  | ready (value : α)
  deriving DecidableEq

/-! ## Channels -/

/-- A channel with one slot. What is in the slot, and whether the receiver is still there, can be seen. -/
structure Channel (α : Type) where
  State : Type
  start : State
  /-- Whether the value went off, or the receiver is gone. -/
  send : α → State → Poll Bool × State
  /-- The receiver takes what is in the slot. -/
  receive : State → Option α × State
  /-- The receiver goes away, and with it what was in the slot. -/
  close : State → Option α × State
  slot : State → Option α
  isOpen : State → Bool

structure Channel.Documented {α : Type} (C : Channel α) : Prop where
  start : C.slot C.start = none ∧ C.isOpen C.start = true
  send_free : ∀ value s, C.isOpen s = true → C.slot s = none →
    ∃ s', C.send value s = (.ready true, s') ∧ C.slot s' = some value ∧ C.isOpen s' = true
  /-- The sender waits until the slot is free. -/
  send_full : ∀ value s, C.isOpen s = true → C.slot s ≠ none → C.send value s = (.pending, s)
  send_closed : ∀ value s, C.isOpen s = false → C.send value s = (.ready false, s)
  receive : ∀ s, ∃ s', C.receive s = (C.slot s, s') ∧ C.slot s' = none ∧ C.isOpen s' = C.isOpen s
  close : ∀ s, ∃ s', C.close s = (C.slot s, s') ∧ C.slot s' = none ∧ C.isOpen s' = false

structure Slot (α : Type) where
  content : Option α
  isOpen : Bool
  deriving DecidableEq

def Channel.plain (α : Type) : Channel α where
  State := Slot α
  start := { content := none, isOpen := true }
  send value s :=
    if s.isOpen then
      match s.content with
      | none => (.ready true, { s with content := some value })
      | some _ => (.pending, s)
    else (.ready false, s)
  receive s := (s.content, { s with content := none })
  close s := (s.content, { content := none, isOpen := false })
  slot := Slot.content
  isOpen := Slot.isOpen

theorem Channel.plain_documented (α : Type) : (Channel.plain α).Documented where
  start := ⟨rfl, rfl⟩
  send_free value s listening free := by
    obtain ⟨content, isOpen⟩ := s
    cases free
    cases listening
    exact ⟨_, rfl, rfl, rfl⟩
  send_full value s listening full := by
    obtain ⟨_ | content, isOpen⟩ := s
    · exact absurd rfl full
    · cases listening
      rfl
  send_closed value s gone := by
    obtain ⟨content, isOpen⟩ := s
    cases gone
    rfl
  receive _ := ⟨_, rfl, rfl, rfl⟩
  close _ := ⟨_, rfl, rfl, rfl⟩

/-! ## Replies -/

/-- A way for one value, to be sent once. -/
structure Oneshot (α : Type) where
  State : Type
  start : State
  /-- Gives the value away, and tells whether the receiver was still there. -/
  send : α → State → Bool × State
  /-- The sender goes away without having sent. -/
  drop : State → State
  /-- What the receiver finds: the value, or none if the sender went away. -/
  poll : State → Poll (Option α)
  /-- The receiver goes away. -/
  close : State → State
  isClosed : State → Bool

structure Oneshot.Documented {α : Type} (O : Oneshot α) : Prop where
  start : O.poll O.start = .pending ∧ O.isClosed O.start = false
  send_open : ∀ value s, O.isClosed s = false → O.poll s = .pending →
    (O.send value s).1 = true ∧ O.poll (O.send value s).2 = .ready (some value)
  send_closed : ∀ value s, O.isClosed s = true → (O.send value s).1 = false
  poll_drop : ∀ s, O.isClosed s = false → O.poll s = .pending → O.poll (O.drop s) = .ready none
  /-- Whether the receiver is there is not up to the sender. -/
  isClosed_send : ∀ value s, O.isClosed (O.send value s).2 = O.isClosed s
  isClosed_drop : ∀ s, O.isClosed (O.drop s) = O.isClosed s
  isClosed_close : ∀ s, O.isClosed (O.close s) = true

structure Parcel (α : Type) where
  inside : Poll (Option α)
  isClosed : Bool
  deriving DecidableEq

def Oneshot.plain (α : Type) : Oneshot α where
  State := Parcel α
  start := { inside := .pending, isClosed := false }
  send value s := (!s.isClosed, { s with inside := .ready (some value) })
  drop s := { s with inside := .ready none }
  poll := Parcel.inside
  close s := { s with isClosed := true }
  isClosed := Parcel.isClosed

theorem Oneshot.plain_documented (α : Type) : (Oneshot.plain α).Documented where
  start := ⟨rfl, rfl⟩
  send_open value s there _ := by
    obtain ⟨inside, isClosed⟩ := s
    cases there
    exact ⟨rfl, rfl⟩
  send_closed value s gone := by
    obtain ⟨inside, isClosed⟩ := s
    cases gone
    rfl
  poll_drop _ _ _ := rfl
  isClosed_send _ _ := rfl
  isClosed_drop _ := rfl
  isClosed_close _ := rfl

/-! ## Tokens -/

/-- Tokens that are cancelled once and for all, each perhaps below others. -/
structure Tokens where
  Token : Type
  State : Type
  start : State
  /-- A new token below no other. -/
  root : State → Token × State
  /-- A new token below this one. -/
  child : Token → State → Token × State
  cancel : Token → State → State
  isCancelled : Token → State → Bool
  /-- The first token is the second one or lies below it. -/
  Below : State → Token → Token → Prop

structure Tokens.Documented (T : Tokens) : Prop where
  /-- Cancelling reaches the token and those below it, and lasts. -/
  isCancelled_cancel : ∀ token above s, T.isCancelled token (T.cancel above s) = true ↔
    T.isCancelled token s = true ∨ T.Below s token above
  below_cancel : ∀ token above other s, T.Below (T.cancel other s) token above ↔ T.Below s token above
  below_self : ∀ token s, T.Below s token token
  below_child : ∀ above s, T.Below (T.child above s).2 (T.child above s).1 above
  /-- Below a cancelled token there are only cancelled ones. -/
  isCancelled_child : ∀ above s, T.isCancelled above s = true →
    T.isCancelled (T.child above s).1 (T.child above s).2 = true
  lasts_child : ∀ token above s, T.isCancelled token s = true →
    T.isCancelled token (T.child above s).2 = true
  lasts_root : ∀ token s, T.isCancelled token s = true → T.isCancelled token (T.root s).2 = true

/-- A token is known by its own number and those of the tokens above it. -/
structure Lineage where
  number : Nat
  above : List Nat
  deriving DecidableEq

def Lineage.numbers (token : Lineage) : List Nat := token.number :: token.above

structure TokenBook where
  /-- Numbers of tokens that were cancelled themselves. -/
  cancelled : List Nat
  /-- The number of the next token. -/
  fresh : Nat
  deriving DecidableEq

namespace TokenBook

def create (book : TokenBook) (above : List Nat) : Lineage × TokenBook :=
  (⟨book.fresh, above⟩, { book with fresh := book.fresh + 1 })

def cancel (book : TokenBook) (token : Lineage) : TokenBook :=
  { book with cancelled := token.number :: book.cancelled }

def isCancelled (book : TokenBook) (token : Lineage) : Bool :=
  token.numbers.any (· ∈ book.cancelled)

theorem isCancelled_iff {book : TokenBook} {token : Lineage} :
    book.isCancelled token = true ↔ ∃ number ∈ token.numbers, number ∈ book.cancelled := by
  simp only [isCancelled, List.any_eq_true, decide_eq_true_eq]

theorem isCancelled_cancel_iff {book : TokenBook} {token above : Lineage} :
    (book.cancel above).isCancelled token = true ↔
      book.isCancelled token = true ∨ above.number ∈ token.numbers := by
  simp only [isCancelled_iff, cancel, List.mem_cons]
  constructor
  · rintro ⟨number, inside, rfl | there⟩
    · exact .inr inside
    · exact .inl ⟨number, inside, there⟩
  · rintro (⟨number, inside, there⟩ | inside)
    · exact ⟨number, inside, .inr there⟩
    · exact ⟨above.number, inside, .inl rfl⟩

/-- Whoever is made below a token is cancelled with it. -/
theorem isCancelled_create {book : TokenBook} {above : Lineage}
    (cancelled : book.isCancelled above = true) :
    (book.create above.numbers).2.isCancelled (book.create above.numbers).1 = true := by
  obtain ⟨number, inside, there⟩ := isCancelled_iff.mp cancelled
  exact isCancelled_iff.mpr ⟨number, List.mem_cons_of_mem _ inside, there⟩

end TokenBook

def Tokens.plain : Tokens where
  Token := Lineage
  State := TokenBook
  start := { cancelled := [], fresh := 0 }
  root book := book.create []
  child above book := book.create above.numbers
  cancel token book := book.cancel token
  isCancelled token book := book.isCancelled token
  Below _ token above := above.number ∈ token.numbers

theorem Tokens.plain_documented : Tokens.plain.Documented where
  isCancelled_cancel _ _ _ := TokenBook.isCancelled_cancel_iff
  below_cancel _ _ _ _ := .rfl
  below_self _ _ := List.mem_cons_self
  below_child _ _ := List.mem_cons_of_mem _ List.mem_cons_self
  isCancelled_child _ _ cancelled := TokenBook.isCancelled_create cancelled
  lasts_child _ _ _ cancelled := cancelled
  lasts_root _ _ cancelled := cancelled

end Filing
