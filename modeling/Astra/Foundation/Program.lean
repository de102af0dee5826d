import Mathlib.Data.List.Induction

/-!
# Programs that call their environment

A program either returns or makes a call and goes on with the answer.  Nothing is
assumed about the answers, so that a property of all traces is one against any
environment.  `Ensures` is the rule for histories: it asks of every call that the
history so far admits it, and of every return that the postcondition holds.
-/

namespace Astra.Foundation

inductive Program (op : Type) (answer : op → Type) (α : Type) where
  | done (value : α)
  | call (o : op) (next : answer o → Program op answer α)

structure Event (op : Type) (answer : op → Type) where
  op : op
  answer : answer op

namespace Program

variable {op : Type} {answer : op → Type} {α β : Type}

def bind : Program op answer α → (α → Program op answer β) → Program op answer β
  | .done a, f => f a
  | .call o next, f => .call o fun r => (next r).bind f

def andThen {ε : Type} (p : Program op answer (Except ε α))
    (f : α → Program op answer (Except ε β)) : Program op answer (Except ε β) :=
  p.bind fun
    | .ok a => f a
    | .error e => .done (.error e)

/-- The calls that a run has made so far, and its result once it has returned. -/
inductive Trace : Program op answer α → List (Event op answer) → Option α → Prop
  | running (p : Program op answer α) : Trace p [] none
  | returned (a : α) : Trace (.done a) [] (some a)
  | called (o : op) (next : answer o → Program op answer α) (r : answer o)
      {es : List (Event op answer)} {out : Option α} (h : Trace (next r) es out) :
      Trace (.call o next) (⟨o, r⟩ :: es) out

/-- The run against an environment that answers by the history. -/
def follow (oracle : List (Event op answer) → (o : op) → answer o) :
    Program op answer α → List (Event op answer) → List (Event op answer) × α
  | .done a, _ => ([], a)
  | .call o next, history =>
      let r := oracle history o
      let rest := follow oracle (next r) (history ++ [⟨o, r⟩])
      (⟨o, r⟩ :: rest.1, rest.2)

theorem follow_trace (oracle : List (Event op answer) → (o : op) → answer o)
    (p : Program op answer α) (history : List (Event op answer)) :
    Trace p (p.follow oracle history).1 (some (p.follow oracle history).2) := by
  induction p generalizing history with
  | done a => exact .returned a
  | call o next ih => exact .called o next _ (ih _ _)

theorem follow_admitted {admitted : (o : op) → answer o → Prop}
    {oracle : List (Event op answer) → (o : op) → answer o}
    (horacle : ∀ history o, admitted o (oracle history o)) (p : Program op answer α)
    (history : List (Event op answer)) :
    ∀ e ∈ (p.follow oracle history).1, admitted e.op e.answer := by
  induction p generalizing history with
  | done a => simp [follow]
  | call o next ih =>
      intro e he
      rcases List.mem_cons.mp he with rfl | he
      · exact horacle history o
      · exact ih _ _ e he

theorem Trace.progress {p : Program op answer α} {es : List (Event op answer)}
    (h : Trace p es none) :
    (∃ a, Trace p es (some a)) ∨ ∃ o, ∀ r, Trace p (es ++ [⟨o, r⟩]) none := by
  generalize hout : none = out at h
  induction h with
  | running p =>
      cases p with
      | done a => exact Or.inl ⟨a, .returned a⟩
      | call o next => exact Or.inr ⟨o, fun r => .called o next r (.running _)⟩
  | returned a => cases hout
  | called o next r h ih =>
      rcases ih hout with ⟨a, ha⟩ | ⟨o', ho'⟩
      · exact Or.inl ⟨a, .called o next r ha⟩
      · exact Or.inr ⟨o', fun r' => .called o next r (ho' r')⟩

theorem Trace.of_bind {p : Program op answer α} {f : α → Program op answer β}
    {es : List (Event op answer)} {b : β} (h : Trace (p.bind f) es (some b)) :
    ∃ es₁ a es₂, es = es₁ ++ es₂ ∧ Trace p es₁ (some a) ∧ Trace (f a) es₂ (some b) := by
  induction p generalizing es with
  | done a => exact ⟨[], a, es, rfl, .returned a, h⟩
  | call o next ih =>
      cases h with
      | called o next r h =>
          obtain ⟨es₁, a, es₂, rfl, hfirst, hsecond⟩ := ih r h
          exact ⟨⟨o, r⟩ :: es₁, a, es₂, rfl, .called o next r hfirst, hsecond⟩

theorem Trace.of_andThen {ε : Type} {p : Program op answer (Except ε α)}
    {f : α → Program op answer (Except ε β)} {es : List (Event op answer)} {r : Except ε β}
    (h : Trace (p.andThen f) es (some r)) :
    (∃ es₁ a es₂, es = es₁ ++ es₂ ∧ Trace p es₁ (some (.ok a)) ∧ Trace (f a) es₂ (some r)) ∨
      ∃ e, Trace p es (some (.error e)) ∧ r = .error e := by
  obtain ⟨es₁, a | a, es₂, rfl, hfirst, hsecond⟩ := h.of_bind
  · cases hsecond
    rw [List.append_nil]
    exact Or.inr ⟨a, hfirst, rfl⟩
  · exact Or.inl ⟨es₁, a, es₂, rfl, hfirst, hsecond⟩

/-! ## Kinds of calls -/

/-- Every call of the program, whatever the answers before it, is of the kind. -/
def Calls (kind : op → Prop) : Program op answer α → Prop
  | .done _ => True
  | .call o next => kind o ∧ ∀ r, Calls kind (next r)

section Calls

variable {kind : op → Prop} {p : Program op answer α}

theorem Calls.bind {f : α → Program op answer β} (h : Calls kind p)
    (hf : ∀ a, Calls kind (f a)) : Calls kind (p.bind f) := by
  induction p with
  | done a => exact hf a
  | call o next ih => exact ⟨h.1, fun r => ih r (h.2 r)⟩

theorem Calls.andThen {ε : Type} {p : Program op answer (Except ε α)}
    {f : α → Program op answer (Except ε β)} (h : Calls kind p) (hf : ∀ a, Calls kind (f a)) :
    Calls kind (p.andThen f) := by
  apply h.bind
  intro r
  cases r with
  | ok a => exact hf a
  | error e => trivial

theorem Calls.mono {kind' : op → Prop} (h : Calls kind p) (himp : ∀ o, kind o → kind' o) :
    Calls kind' p := by
  induction p with
  | done a => trivial
  | call o next ih => exact ⟨himp o h.1, fun r => ih r (h.2 r)⟩

theorem Calls.trace {es : List (Event op answer)} {out : Option α} (h : Calls kind p)
    (htrace : Trace p es out) : ∀ e ∈ es, kind e.op := by
  induction htrace with
  | running p => simp
  | returned a => simp
  | called o next r htrace ih =>
      intro e he
      rcases List.mem_cons.mp he with rfl | he
      · exact h.1
      · exact ih (h.2 r) e he

theorem Calls.follow_congr {oracle oracle' : List (Event op answer) → (o : op) → answer o}
    (h : Calls kind p) (hagree : ∀ history o, kind o → oracle history o = oracle' history o)
    (history : List (Event op answer)) :
    p.follow oracle history = p.follow oracle' history := by
  induction p generalizing history with
  | done a => rfl
  | call o next ih =>
      simp only [follow, hagree history o h.1]
      rw [ih _ (h.2 _)]

end Calls

/-! ## Histories -/

variable {admitted : (o : op) → answer o → Prop} {ok : List (Event op answer) → op → Prop}
  {post : List (Event op answer) → α → Prop} {history : List (Event op answer)}
  {p : Program op answer α}

def Ensures (admitted : (o : op) → answer o → Prop) (ok : List (Event op answer) → op → Prop)
    (post : List (Event op answer) → α → Prop) :
    Program op answer α → List (Event op answer) → Prop
  | .done a, history => post history a
  | .call o next, history =>
      ok history o ∧ ∀ r, admitted o r → Ensures admitted ok post (next r) (history ++ [⟨o, r⟩])

theorem Ensures.mono {post' : List (Event op answer) → α → Prop}
    (h : Ensures admitted ok post p history)
    (himp : ∀ history a, post history a → post' history a) :
    Ensures admitted ok post' p history := by
  induction p generalizing history with
  | done a => exact himp history a h
  | call o next ih => exact ⟨h.1, fun r hr => ih r (h.2 r hr)⟩

theorem Ensures.of_calls {kind : op → Prop} {kept : List (Event op answer) → Prop}
    (h : Calls kind p) (hhistory : kept history)
    (hok : ∀ history o, kind o → kept history → ok history o)
    (hkept : ∀ history o r, kind o → kept history → kept (history ++ [⟨o, r⟩])) :
    Ensures admitted ok (fun history' _ => kept history') p history := by
  induction p generalizing history with
  | done a => exact hhistory
  | call o next ih =>
      exact ⟨hok history o h.1 hhistory, fun r _ => ih r (h.2 r) (hkept history o r h.1 hhistory)⟩

theorem Ensures.bind {f : α → Program op answer β} {post' : List (Event op answer) → β → Prop}
    (h : Ensures admitted ok post p history)
    (hf : ∀ history a, post history a → Ensures admitted ok post' (f a) history) :
    Ensures admitted ok post' (p.bind f) history := by
  induction p generalizing history with
  | done a => exact hf history a h
  | call o next ih => exact ⟨h.1, fun r hr => ih r (h.2 r hr)⟩

theorem Ensures.andThen {ε : Type} {p : Program op answer (Except ε α)}
    {f : α → Program op answer (Except ε β)}
    {post : List (Event op answer) → Except ε α → Prop}
    {post' : List (Event op answer) → Except ε β → Prop}
    (h : Ensures admitted ok post p history)
    (hok : ∀ history a, post history (.ok a) → Ensures admitted ok post' (f a) history)
    (herror : ∀ history e, post history (.error e) → post' history (.error e)) :
    Ensures admitted ok post' (p.andThen f) history := by
  refine h.bind fun history r hr => ?_
  cases r with
  | ok a => exact hok history a hr
  | error e => exact herror history e hr

/-- Every call of a trace is admitted by the calls before it. -/
theorem Ensures.trace {es : List (Event op answer)} {out : Option α}
    (h : Ensures admitted ok post p history) (htrace : Trace p es out)
    (hes : ∀ e ∈ es, admitted e.op e.answer) :
    (∀ pre e rest, es = pre ++ e :: rest → ok (history ++ pre) e.op) ∧
      ∀ a, out = some a → post (history ++ es) a := by
  induction htrace generalizing history with
  | running p => exact ⟨by simp, by simp⟩
  | returned a =>
      refine ⟨by simp, fun b hb => ?_⟩
      cases hb
      have hpost : post history a := h
      simpa using hpost
  | called o next r htrace ih =>
      obtain ⟨hcalls, hreturn⟩ := ih (h.2 r (hes _ List.mem_cons_self))
        fun e he => hes e (List.mem_cons_of_mem _ he)
      constructor
      · intro pre e rest heq
        cases pre with
        | nil =>
            obtain ⟨rfl, rfl⟩ := List.cons.inj heq
            simpa using h.1
        | cons e' pre =>
            obtain ⟨rfl, rfl⟩ := List.cons.inj heq
            simpa using hcalls pre e rest rfl
      · intro a ha
        simpa using hreturn a ha

theorem Ensures.reached {good : List (Event op answer) → Prop} {es : List (Event op answer)}
    {out : Option α} (h : Ensures admitted ok post p history)
    (hok : ∀ history o, ok history o → good history)
    (hpost : ∀ history a, post history a → good history) (htrace : Trace p es out)
    (hes : ∀ e ∈ es, admitted e.op e.answer) : good (history ++ es) := by
  induction htrace generalizing history with
  | running p =>
      rw [List.append_nil]
      cases p with
      | done a => exact hpost history a h
      | call o next => exact hok history o h.1
  | returned a =>
      rw [List.append_nil]
      exact hpost history a h
  | called o next r htrace ih =>
      have hnext := ih (h.2 r (hes _ List.mem_cons_self))
        fun e he => hes e (List.mem_cons_of_mem _ he)
      simpa using hnext

theorem countP_le_of_calls {es : List (Event op answer)} {kind : Event op answer → Bool}
    {bound : Nat} (h : ∀ pre e rest, es = pre ++ e :: rest → kind e = true →
      pre.countP kind < bound) : es.countP kind ≤ bound := by
  induction es using List.reverseRecOn with
  | nil => simp
  | append_singleton es e ih =>
      have hes := ih fun pre e' rest heq => h pre e' (rest ++ [e]) (by simp [heq])
      rw [List.countP_append, List.countP_singleton]
      cases hkind : kind e with
      | true =>
          have := h es e [] rfl hkind
          simp
          omega
      | false => simpa using hes

end Program

end Astra.Foundation
