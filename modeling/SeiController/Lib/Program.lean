import Mathlib.Logic.Basic

/-!
# Programs that may stop at any operation

A program asks its surroundings for one operation after another and goes on with the
reply.  What the operations do is given apart, so that one program can be run alone,
be cut off at any point, or take turns with others that change the same state.
-/

set_option autoImplicit false

inductive Program (Op : Type) (Reply : Op → Type) (ε α : Type)
  | done (value : α)
  | fail (error : ε)
  | call (op : Op) (next : Reply op → Program Op Reply ε α)

namespace Program

variable {Op : Type} {Reply : Op → Type} {ε α β γ : Type}

def bind (program : Program Op Reply ε α) (rest : α → Program Op Reply ε β) :
    Program Op Reply ε β :=
  match program with
  | .done value => rest value
  | .fail error => .fail error
  | .call op next => .call op fun reply => (next reply).bind rest

instance : Monad (Program Op Reply ε) where
  pure := .done
  bind := bind

def perform (op : Op) : Program Op Reply ε (Reply op) :=
  .call op .done

def ofExcept : Except ε α → Program Op Reply ε α
  | .ok value => .done value
  | .error error => .fail error

def mapError {ε' : Type} (wrap : ε → ε') : Program Op Reply ε α → Program Op Reply ε' α
  | .done value => .done value
  | .fail error => .fail (wrap error)
  | .call op next => .call op fun reply => mapError wrap (next reply)

@[simp] theorem done_bind (value : α) (rest : α → Program Op Reply ε β) :
    (.done value >>= rest) = rest value := rfl

/-! ## Programs among others -/

/-- An observer of a program's operations: what it lets pass, and what it has noted
after a reply. -/
structure Monitor (Op : Type) (Reply : Op → Type) (τ : Type) where
  may : τ → Op → Prop
  after : τ → (op : Op) → Reply op → τ

/-- Whatever replies the surroundings give, the monitor lets every operation pass, and
the program returns only where `post` holds of the notes. -/
def Follows {τ : Type} (monitor : Monitor Op Reply τ) (post : τ → α → Prop) :
    τ → Program Op Reply ε α → Prop
  | notes, .done value => post notes value
  | _, .fail _ => True
  | notes, .call op next =>
    monitor.may notes op ∧ ∀ reply, Follows monitor post (monitor.after notes op reply) (next reply)

variable {σ : Type}

namespace Follows

variable {τ : Type} {monitor : Monitor Op Reply τ} {post : τ → α → Prop} {after : τ → β → Prop}
  {notes : τ}

theorem mono {post' : τ → α → Prop} {program : Program Op Reply ε α}
    (follows : Follows monitor post notes program)
    (weaker : ∀ notes value, post notes value → post' notes value) :
    Follows monitor post' notes program := by
  induction program generalizing notes with
  | done value => exact weaker notes value follows
  | fail error => trivial
  | call op next ih => exact ⟨follows.1, fun reply => ih reply (follows.2 reply)⟩

theorem bind {Q : τ → α → Prop} {program : Program Op Reply ε α}
    {rest : α → Program Op Reply ε β} (first : Follows monitor Q notes program)
    (second : ∀ notes value, Q notes value → Follows monitor after notes (rest value)) :
    Follows monitor after notes (program >>= rest) := by
  induction program generalizing notes with
  | done value => exact second notes value first
  | fail error => trivial
  | call op next ih => exact ⟨first.1, fun reply => ih reply (first.2 reply)⟩

theorem perform_bind {op : Op} {rest : Reply op → Program Op Reply ε β}
    (passes : monitor.may notes op)
    (later : ∀ reply, Follows monitor after (monitor.after notes op reply) (rest reply)) :
    Follows monitor after notes (Program.perform op >>= rest) :=
  ⟨passes, later⟩

/-- A loop, by what holds of the notes and the items still to come. -/
theorem forM {body : β → Program Op Reply ε PUnit} (Q : List β → τ → Prop)
    (step : ∀ item rest notes, Q (item :: rest) notes →
      Follows monitor (fun notes _ => Q rest notes) notes (body item)) :
    ∀ (items : List β) {notes : τ}, Q items notes →
      Follows monitor (fun notes _ => Q [] notes) notes (items.forM body)
  | [], _, start => start
  | item :: rest, notes, start =>
    bind (step item rest notes start) fun _ _ later => forM Q step rest later

end Follows

/-- The remaining program and the state after some of the operations, each with any of the
answers it can get. -/
inductive Attains {σ : Type} (answers : σ → (op : Op) → Reply op → σ → Prop) :
    Program Op Reply ε α → σ → Program Op Reply ε α → σ → Prop
  | here (program : Program Op Reply ε α) (s : σ) : Attains answers program s program s
  | call {op : Op} {next : Reply op → Program Op Reply ε α} {s m t : σ} {reply : Reply op}
      {remaining : Program Op Reply ε α} (answered : answers s op reply m)
      (later : Attains answers (next reply) m remaining t) :
      Attains answers (.call op next) s remaining t

theorem Attains.mono {answers answers' : σ → (op : Op) → Reply op → σ → Prop}
    (weaken : ∀ s op reply t, answers s op reply t → answers' s op reply t)
    {program remaining : Program Op Reply ε α} {s t : σ}
    (attains : Attains answers program s remaining t) : Attains answers' program s remaining t := by
  induction attains with
  | here => exact .here _ _
  | call answered _ ih => exact .call (weaken _ _ _ _ answered) ih

theorem Attains.trans {answers : σ → (op : Op) → Reply op → σ → Prop}
    {program middle remaining : Program Op Reply ε α} {s m t : σ}
    (first : Attains answers program s middle m) (second : Attains answers middle m remaining t) :
    Attains answers program s remaining t := by
  induction first with
  | here => exact second
  | call answered _ ih => exact .call answered (ih second)

theorem Attains.bind {answers : σ → (op : Op) → Reply op → σ → Prop}
    {program : Program Op Reply ε α} {rest : α → Program Op Reply ε β}
    {remaining : Program Op Reply ε β} {s m t : σ} {value : α}
    (first : Attains answers program s (.done value) m)
    (second : Attains answers (rest value) m remaining t) :
    Attains answers (program >>= rest) s remaining t := by
  generalize ends : (.done value : Program Op Reply ε α) = last at first
  induction first with
  | here =>
    subst ends
    exact second
  | call answered _ ih => exact .call answered (ih second ends)

theorem Attains.mapError {ε' : Type} {answers : σ → (op : Op) → Reply op → σ → Prop} {wrap : ε → ε'}
    {program remaining : Program Op Reply ε α} {s t : σ}
    (attains : Attains answers program s remaining t) :
    Attains answers (program.mapError wrap) s (remaining.mapError wrap) t := by
  induction attains with
  | here => exact .here _ _
  | call answered _ ih => exact .call answered ih

/-- Started in `s`, the program leaves a state where `always` holds wherever it is cut off,
and returns only where `post` holds, whatever the answers are. -/
structure Withstands {σ : Type} (answers : σ → (op : Op) → Reply op → σ → Prop) (always : σ → Prop)
    (post : α → σ → Prop) (program : Program Op Reply ε α) (s : σ) : Prop where
  always : ∀ remaining t, Attains answers program s remaining t → always t
  returns : ∀ value t, Attains answers program s (.done value) t → post value t

namespace Withstands

variable {answers : σ → (op : Op) → Reply op → σ → Prop} {always : σ → Prop}
 {post : α → σ → Prop} {after : β → σ → Prop} {s : σ}

theorem done {value : α} (here : always s) (returned : post value s) :
    Withstands answers always post (.done value : Program Op Reply ε α) s where
  always remaining t reached := by
    cases reached
    exact here
  returns value' t reached := by
    cases reached
    exact returned

theorem fail {error : ε} (here : always s) :
    Withstands answers always post (.fail error : Program Op Reply ε α) s where
  always remaining t reached := by
    cases reached
    exact here
  returns value t reached := by cases reached

theorem call {op : Op} {next : Reply op → Program Op Reply ε α} (here : always s)
    (later : ∀ reply t, answers s op reply t → Withstands answers always post (next reply) t) :
    Withstands answers always post (.call op next) s where
  always remaining t reached := by
    cases reached with
    | here => exact here
    | call answered reached => exact (later _ _ answered).always _ _ reached
  returns value t reached := by
    cases reached with
    | call answered reached => exact (later _ _ answered).returns _ _ reached

theorem mono {always' : σ → Prop} {post' : α → σ → Prop} {program : Program Op Reply ε α}
    (withstands : Withstands answers always post program s) (kept : ∀ t, always t → always' t)
    (returned : ∀ value t, post value t → post' value t) :
    Withstands answers always' post' program s where
  always remaining t reached := kept t (withstands.always remaining t reached)
  returns value t reached := returned value t (withstands.returns value t reached)

theorem bind {Q : α → σ → Prop} {program : Program Op Reply ε α}
    {rest : α → Program Op Reply ε β} (first : Withstands answers always Q program s)
    (second : ∀ value t, Q value t → Withstands answers always after (rest value) t) :
    Withstands answers always after (program >>= rest) s := by
  induction program generalizing s with
  | done value => exact second value s (first.returns value s (.here _ _))
  | fail error => exact fail (first.always _ _ (.here _ _))
  | call op next ih =>
    refine call (first.always _ _ (.here _ _)) fun reply t answered => ih reply ?_
    exact ⟨fun remaining u reached => first.always _ _ (.call answered reached),
      fun value u reached => first.returns _ _ (.call answered reached)⟩

theorem perform_bind {op : Op} {rest : Reply op → Program Op Reply ε β} (here : always s)
    (later : ∀ reply t, answers s op reply t → Withstands answers always after (rest reply) t) :
    Withstands answers always after (Program.perform op >>= rest) s :=
  call here later

theorem restrict {answers' : σ → (op : Op) → Reply op → σ → Prop}
    {program : Program Op Reply ε α} (withstands : Withstands answers always post program s)
    (fewer : ∀ s op reply t, answers' s op reply t → answers s op reply t) :
    Withstands answers' always post program s where
  always remaining t reached := withstands.always remaining t (reached.mono fewer)
  returns value t reached := withstands.returns value t (reached.mono fewer)

theorem mapError {ε' : Type} {wrap : ε → ε'} {program : Program Op Reply ε α}
    (withstands : Withstands answers always post program s) :
    Withstands answers always post (program.mapError wrap) s := by
  induction program generalizing s with
  | done value =>
    exact done (withstands.always _ _ (.here _ _)) (withstands.returns _ _ (.here _ _))
  | fail error => exact fail (withstands.always _ _ (.here _ _))
  | call op next ih =>
    refine call (withstands.always _ _ (.here _ _)) fun reply t answered => ih reply ?_
    exact ⟨fun remaining u reached => withstands.always _ _ (.call answered reached),
      fun value u reached => withstands.returns _ _ (.call answered reached)⟩

theorem ofExcept_bind {outcome : Except ε α} {rest : α → Program Op Reply ε β} (here : always s)
    (later : ∀ value, outcome = .ok value → Withstands answers always after (rest value) s) :
    Withstands answers always after (Program.ofExcept outcome >>= rest) s := by
  cases outcome with
  | ok value => exact later value rfl
  | error error => exact fail here

end Withstands

/-- What ties the notes to the state survives the operations the monitor lets pass. -/
theorem Follows.attains {τ σ : Type} {monitor : Monitor Op Reply τ} {post : τ → α → Prop}
    {answers : σ → (op : Op) → Reply op → σ → Prop} {R : τ → σ → Prop}
    (kept : ∀ notes op s reply t, monitor.may notes op → R notes s → answers s op reply t →
      R (monitor.after notes op reply) t)
    {program remaining : Program Op Reply ε α} {s t : σ}
    (attains : Attains answers program s remaining t) :
    ∀ {notes : τ}, Follows monitor post notes program → R notes s →
      ∃ now, Follows monitor post now remaining ∧ R now t := by
  induction attains with
  | here => exact fun follows tied => ⟨_, follows, tied⟩
  | call answered _ ih =>
    exact fun follows tied => ih (follows.2 _) (kept _ _ _ _ _ follows.1 tied answered)

end Program
