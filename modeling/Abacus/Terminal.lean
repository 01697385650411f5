import Abacus.Text.Utf8

/-!
# Control sequences

What is for the eye in bytes that also steer a terminal. A sequence starts with an escape byte and
ends as its kind says; an escape byte in its midst starts another, and a cancel ends it. White space
is for the eye everywhere but in a string that a sequence carries. Other controls are never.

`plain` takes a text as a whole: what interrupts a sequence ends it. `passed` takes an output as it
comes: a sequence that white space interrupts is resumed at the next control. Both leave bytes alone
that hold no control: `strip_eq_self` and `pass_eq_self`. What is set off reads as it stands:
`plain_emphasised`.
-/

namespace Abacus.Terminal

/-! ## Sequences -/

/-- Where in a sequence a byte stands. -/
inductive State where
  /-- In no sequence. -/
  | ground
  /-- Behind the escape byte. -/
  | escape
  /-- In a sequence of two characters or more without parameters. -/
  | intermediate
  /-- In a sequence with parameters. -/
  | control
  /-- In a string for the system, which a bell ends. -/
  | command
  /-- In front of a string for a device, at its start. -/
  | device
  /-- In front of a string for a device, among its parameters. -/
  | deviceParameters
  /-- In front of a string for a device, behind its parameters. -/
  | deviceIntermediate
  /-- In any other string, or that for a device. -/
  | string
  deriving DecidableEq

/-- Where an escape byte and the byte behind it lead. -/
def afterEscape (n : Nat) : State :=
  if n = 0x5B then .control
  else if n = 0x5D then .command
  else if n = 0x50 then .device
  else if n ∈ [0x58, 0x5E, 0x5F] then .string
  else if 0x20 ≤ n ∧ n < 0x30 then .intermediate
  else if 0x30 ≤ n ∧ n < 0x7F then .ground
  else .escape

/-- Where a byte leads in front of a string for a device. A final byte starts the string, and so
does a parameter where none may stand. -/
def inDevice (state : State) (n : Nat) : State :=
  if 0x40 ≤ n ∧ n < 0x7F then .string
  else if 0x20 ≤ n ∧ n < 0x30 then .deviceIntermediate
  else if 0x30 ≤ n ∧ n < 0x40 then
    match state with
    | .device => .deviceParameters
    | .deviceParameters => if n < 0x3C then .deviceParameters else .string
    | _ => .string
  else state

/-- Where a byte leads that is neither a cancel nor an escape byte. -/
def State.within (state : State) (n : Nat) : State :=
  match state with
  | .ground => .ground
  | .escape => afterEscape n
  | .intermediate => if 0x30 ≤ n ∧ n < 0x7F then .ground else .intermediate
  | .control => if 0x40 ≤ n ∧ n < 0x7F then .ground else .control
  | .command => if n = 0x07 then .ground else .command
  | .string => if n = 0x9C then .ground else .string
  | _ => inDevice state n

/-- Where a byte leads. -/
def State.next (state : State) (b : UInt8) : State :=
  if b = 0x18 ∨ b = 0x1A then .ground
  else if b = 0x1B then .escape
  else state.within b.toNat

/-! ## What is for the eye -/

/-- A tab, a line feed, a form feed or a carriage return. -/
def isSpacing (b : UInt8) : Bool :=
  b ∈ [0x09, 0x0A, 0x0C, 0x0D]

/-- The first byte of a longer character. -/
def isLead (b : UInt8) : Bool :=
  0xC2 ≤ b.toNat && b.toNat ≤ 0xF4

/-- A further byte of a longer character. -/
def isContinuation (b : UInt8) : Bool :=
  0x80 ≤ b.toNat && b.toNat ≤ 0xBF

/-- A byte outside sequences is for the eye. -/
def isVisible (b : UInt8) : Bool :=
  isSpacing b || (0x20 ≤ b.toNat && b.toNat < 0x7F) || isLead b

/-- A byte is for the eye where it stands. -/
def State.shows (state : State) (b : UInt8) : Bool :=
  match state with
  | .ground => isVisible b
  | .escape => isSpacing b
  | .intermediate => isSpacing b
  | .control => isSpacing b
  | _ => false

/-! ## Texts -/

/-- What is for the eye in bytes taken as a whole, where the byte before them may have been. -/
def strip (shown : Bool) (state : State) : Bytes → Bytes
  | [] => []
  | b :: rest =>
    if state.shows b || (shown && isContinuation b) then b :: strip true .ground rest
    else strip false (state.next b) rest

/-- What is for the eye in a text. -/
def plain (cs : Text) : Text :=
  Utf8.decodeLossy (strip false .ground (Utf8.encode cs))

/-! ## Outputs -/

/-- Whether a byte of an output passes, where the byte before it may have passed. -/
def passes (passing : Bool) (state : State) (b : UInt8) : Bool :=
  state.shows b || (passing && (isVisible b || isContinuation b))

/-- What is for the eye in the bytes of an output. -/
def pass (passing : Bool) (state : State) : Bytes → Bytes
  | [] => []
  | b :: rest =>
    if passes passing state b then b :: pass true (if isLead b then .ground else state) rest
    else pass false (state.next b) rest

/-- What of an output reaches what is no terminal. -/
def passed (bytes : Bytes) : Bytes :=
  pass false .ground bytes

/-! ## Emphasis -/

/-- A text that a terminal sets off. -/
def emphasised (cs : Text) : Text :=
  "\x1b[1m".toList ++ cs ++ "\x1b[0m".toList

/-! ## Bytes without controls -/

/-- A byte holds no control of its own, and is part of a character at most. -/
def isPlain (b : UInt8) : Bool :=
  isVisible b || isContinuation b

theorem strip_append {bytes : Bytes} (h : ∀ b ∈ bytes, isPlain b) (rest : Bytes) :
    strip true .ground (bytes ++ rest) = bytes ++ strip true .ground rest := by
  induction bytes with
  | nil => rfl
  | cons b bytes ih =>
    have hb : (State.ground.shows b || (true && isContinuation b)) = true :=
      h b List.mem_cons_self
    rw [List.cons_append, strip, if_pos hb, ih fun c hc => h c (List.mem_cons_of_mem b hc),
      List.cons_append]

theorem strip_eq_self {bytes : Bytes} (h : ∀ b ∈ bytes, isPlain b) :
    strip true .ground bytes = bytes := by
  simpa [strip] using strip_append h []

theorem pass_eq_self {bytes : Bytes} (h : ∀ b ∈ bytes, isPlain b) :
    pass true .ground bytes = bytes := by
  induction bytes with
  | nil => rfl
  | cons b rest ih =>
    have hb : passes true .ground b = true := by
      rw [passes, Bool.true_and]
      exact Bool.or_eq_true_iff.2 (.inr (h b List.mem_cons_self))
    rw [pass, if_pos hb, ite_self, ih fun c hc => h c (List.mem_cons_of_mem b hc)]

theorem isVisible_of_isPlain {b : UInt8} (h : isPlain b) (hb : b.toNat < 0x80 ∨ 0xC0 ≤ b.toNat) :
    isVisible b = true := by
  rcases Bool.or_eq_true_iff.1 h with h | h
  · exact h
  · simp only [isContinuation, Bool.and_eq_true, decide_eq_true_eq] at h
    omega

/-- Emphasis is not for the eye. -/
theorem plain_emphasised {cs : Text} (h : ∀ b ∈ Utf8.encode cs, isPlain b) :
    plain (emphasised cs) = cs := by
  have hsplit : Utf8.encode (emphasised cs) =
      Utf8.encode "\x1b[1m".toList ++ (Utf8.encode cs ++ Utf8.encode "\x1b[0m".toList) := by
    simp only [emphasised, Utf8.encode, List.flatMap_append, List.append_assoc]
  have hopen (rest : Bytes) :
      strip false .ground (Utf8.encode "\x1b[1m".toList ++ rest) = strip false .ground rest := rfl
  have hclose (shown : Bool) : strip shown .ground (Utf8.encode "\x1b[0m".toList) = [] := by
    cases shown <;> decide
  have hbody (rest : Bytes) :
      strip false .ground (Utf8.encode cs ++ rest) =
        Utf8.encode cs ++ strip (!cs.isEmpty) .ground rest := by
    cases cs with
    | nil => rfl
    | cons c cs =>
      obtain ⟨b, tail, heq, hb⟩ := Utf8.exists_encodeChar_eq_cons c
      have hbytes : Utf8.encode (c :: cs) = b :: (tail ++ Utf8.encode cs) := by
        rw [Utf8.encode, List.flatMap_cons, heq, List.cons_append, Utf8.encode]
      rw [hbytes] at h ⊢
      have hshows : State.ground.shows b = true :=
        isVisible_of_isPlain (h b List.mem_cons_self) hb
      rw [List.cons_append, strip, if_pos (by rw [hshows, Bool.true_or]),
        strip_append fun d hd => h d (List.mem_cons_of_mem b hd)]
      rfl
  rw [plain, hsplit, hopen, hbody, hclose, List.append_nil, Utf8.decodeLossy_encode]

end Abacus.Terminal
