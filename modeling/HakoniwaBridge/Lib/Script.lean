import HakoniwaBridge.Lib.Machine

/-!
# Programs that ask a service

A program asks one question after another and goes on with the answer, or without one. The service
is a machine in which other things happen too. Everything here is over arbitrary types.

* `Script Q A α` — a program: it is done with a result, or it asks.
* `GivesUp` — a program that ends as soon as a question stays unanswered.
* `step` — the program and the service, where asking and answering is one step; `Turn.unheard` is a
  question that is served without the program's taking notice.
* `Outline` — a proof outline: what is known while the program waits, whatever happens at the
  service meanwhile (`Stable`), and what is known after each answer. `outline_run`: **a program with
  an outline ends as the outline says.**
-/

namespace HakoniwaBridge.Lib

variable {Q A α S U W E : Type*}

/-- A program that asks questions. -/
inductive Script (Q A α : Type*)
  | done (result : α)
  | ask (q : Q) (next : Option A → Script Q A α)

/-- What happens next: something at the service, an answer, the end of the patience, or a question
is served that nobody waits for. -/
inductive Turn (Q U W : Type*)
  | other (u : U)
  | answered (w : W)
  | unanswered
  | unheard (w : W) (q : Q)

/-- Something at the service. -/
def Turn.other? : Turn Q U W → Option U
  | .other u => some u
  | _ => none

def Turn.isUnheard : Turn Q U W → Bool
  | .unheard _ _ => true
  | _ => false

namespace Script

/-- No further question after one that stays unanswered. -/
def GivesUp : Script Q A α → Prop
  | done _ => True
  | ask _ next => (∃ result, next none = done result) ∧ ∀ res, (next (some res)).GivesUp

section service

-- the service, the operation in which it serves a question, and the answer that it gives
variable (serviceStep : S → U → S × List E) (query : W → Q → U) (answer : W → Q → S → Option A)

/-- One turn. -/
def step (sp : S × Script Q A α) (turn : Turn Q U W) : (S × Script Q A α) × List E :=
  match turn, sp.2 with
  | .other u, p => (((serviceStep sp.1 u).1, p), (serviceStep sp.1 u).2)
  | .unheard w q, p =>
    (((serviceStep sp.1 (query w q)).1, p), (serviceStep sp.1 (query w q)).2)
  | .answered w, ask q next =>
    (((serviceStep sp.1 (query w q)).1, ((answer w q sp.1).map fun res => next (some res)).getD
        (ask q next)), (serviceStep sp.1 (query w q)).2)
  | .unanswered, ask _ next => ((sp.1, next none), [])
  | _, p => ((sp.1, p), [])

/-- What the service does keeps the condition, which may speak of all that was put out. -/
def Stable (I : List E → S → Prop) : Prop :=
  ∀ es s u, I es s → I (es ++ (serviceStep s u).2) (serviceStep s u).1

/-- A proof outline. While the program waits, `I` holds; after an answer, some `J` of the answer; in
the end `P`. -/
def Outline (P : List E → S → α → Prop) :
    (List E → S → Prop) → Script Q A α → Prop
  | I, done result => ∀ es s, I es s → P es s result
  | I, ask q next => Outline P I (next none) ∧ ∃ J : A → List E → S → Prop,
      (∀ res, Stable serviceStep (J res)) ∧
      ∀ w es s res, I es s → answer w q s = some res →
        J res (es ++ (serviceStep s (query w q)).2) (serviceStep s (query w q)).1 ∧
          Outline P (J res) (next (some res))

variable {serviceStep query answer} {P : List E → S → α → Prop} {I : List E → S → Prop}

/-- An outline serves under a stronger condition. -/
theorem Outline.mono {I' : List E → S → Prop} {p : Script Q A α}
    (h : Outline serviceStep query answer P I p) (hI : ∀ es s, I' es s → I es s) :
    Outline serviceStep query answer P I' p := by
  induction p with
  | done result => exact fun es s h' => h es s (hI es s h')
  | ask q next ih =>
    obtain ⟨hnone, J, hJ, hsome⟩ := h
    exact ⟨ih none hnone, J, hJ, fun w es s res h' => hsome w es s res (hI es s h')⟩

/-- **Step lemma.** -/
theorem Outline.step {es : List E} {s : S} {p : Script Q A α}
    (h : Outline serviceStep query answer P I p) (hI : Stable serviceStep I) (hs : I es s)
    (turn : Turn Q U W) :
    ∃ J, Stable serviceStep J ∧
      J (es ++ (Script.step serviceStep query answer (s, p) turn).2)
        (Script.step serviceStep query answer (s, p) turn).1.1 ∧
      Outline serviceStep query answer P J
        (Script.step serviceStep query answer (s, p) turn).1.2 := by
  have hstay : ∃ J, Stable serviceStep J ∧ J (es ++ []) s ∧
      Outline serviceStep query answer P J p := ⟨I, hI, (List.append_nil es).symm ▸ hs, h⟩
  cases turn with
  | other u => exact ⟨I, hI, hI es s u hs, h⟩
  | unheard w q => exact ⟨I, hI, hI es s (query w q) hs, h⟩
  | unanswered =>
    cases p with
    | done result => exact hstay
    | ask q next => exact ⟨I, hI, (List.append_nil es).symm ▸ hs, h.1⟩
  | answered w =>
    cases p with
    | done result => exact hstay
    | ask q next =>
      unfold Script.step
      dsimp only
      cases hanswer : answer w q s with
      | none => exact ⟨I, hI, hI es s (query w q) hs, h⟩
      | some res =>
        obtain ⟨-, J, hJ, hsome⟩ := h
        obtain ⟨hnow, hrest⟩ := hsome w es s res hs hanswer
        exact ⟨J res, hJ res, hnow, hrest⟩

/-- **Proof outlines.** Whatever happens in between, a program ends as its outline says. -/
theorem outline_run {es : List E} {s : S} {p : Script Q A α}
    (h : Outline serviceStep query answer P I p) (hI : Stable serviceStep I) (hs : I es s)
    (turns : List (Turn Q U W)) {s' : S} {es' : List E} {result : α}
    (hrun : run (step serviceStep query answer) (s, p) turns = ((s', done result), es')) :
    P (es ++ es') s' result := by
  have hall : Along (step serviceStep query answer) (fun _ _ => True) (s, p) turns :=
    along_of_forall (fun _ _ => trivial) (s, p) turns
  have hhistory := run_history (H := fun sp es => ∃ J, Stable serviceStep J ∧ J es sp.1 ∧
      Outline serviceStep query answer P J sp.2)
    (fun sp es turn ⟨_, hJ, hs, h⟩ _ => h.step hJ hs turn) ⟨I, hI, hs, h⟩ hall
  rw [hrun] at hhistory
  obtain ⟨J, -, hJ, hdone⟩ := hhistory
  exact hdone _ _ hJ

end service

end Script

end HakoniwaBridge.Lib
