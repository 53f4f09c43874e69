import Mathlib.Data.List.Infix
import RuleAudit.Proofs.Deeds

/-!
# The line before the program gives up

An error may lie in layers around its innermost cause. Its message has the words of all layers and
then the message of that cause. The fatal line says this message, and then once more what is left of
it without the first layer, without the first two, and so on; and last what a connection has said of
the causes of its failure.

* `Error.layers`, `Error.core`: what an error is made of;
* `Error.message_eq`: the message says everything once;
* `Error.fatalLine_exact`: what the fatal line says, and that the program ends with it.
-/

namespace RuleAudit

namespace Error

/-! ### Layers -/

/-- The words that each layer of an error puts before its cause, from the outermost. -/
def layers : Error → List Text
  | listRules source => "failed to list rules: " :: source.layers
  | metricLookup metric source =>
    ("failed to get metric " ++ Text.quoted metric ++ ": ") :: source.layers
  | _ => []

/-- The innermost cause of an error, which may be the error itself. -/
def core : Error → Error
  | listRules source => source.core
  | metricLookup _ source => source.core
  | e => e

/-- What is said of the causes of a failure that are no failures of their own. -/
def causes : Error → List Text
  | http o => o.causes
  | _ => []

theorem source?_core (e : Error) : e.core.source? = none := by
  induction e with
  | listRules source ih => exact ih
  | metricLookup metric source ih => exact ih
  | _ => rfl

/-- **The message of an error says everything once.** -/
theorem message_eq (e : Error) : e.message = e.layers.flatten ++ e.core.message := by
  induction e with
  | listRules source ih =>
    change "failed to list rules: ".toList ++ source.message = _ ++ source.core.message
    rw [ih, layers, List.flatten_cons, List.append_assoc]
  | metricLookup metric source ih =>
    change _ ++ source.message = _ ++ source.core.message
    rw [ih, layers, List.flatten_cons, ← List.append_assoc]
  | _ => rfl

/-! ### The fatal line -/

/-- What is said of the error and its causes: ever fewer layers, and the innermost cause each time;
and then what is said of the causes of that. -/
theorem chain_eq (e : Error) :
    e.message :: e.chain =
      (e.layers.tails.map fun ls => ls.flatten ++ e.core.message) ++ e.core.causes := by
  induction e with
  | listRules source ih =>
    have hmessage := message_eq (listRules source)
    rw [layers, List.tails_cons, List.map_cons, List.cons_append]
    exact congr (congrArg List.cons hmessage) ih
  | metricLookup metric source ih =>
    have hmessage := message_eq (metricLookup metric source)
    rw [layers, List.tails_cons, List.map_cons, List.cons_append]
    exact congr (congrArg List.cons hmessage) ih
  | _ => rfl

theorem chain_eq_nil_iff {e : Error} : e.chain = [] ↔ e.source? = none ∧ e.causes = [] := by
  cases e <;> simp [chain, source?, causes]

/-- Something is joined to a text exactly if there is something to be joined. -/
theorem join_cons_eq_self_iff {separator t : Text} (hseparator : separator ≠ []) {ts : List Text} :
    Text.join separator (t :: ts) = t ↔ ts = [] := by
  cases ts with
  | nil => exact iff_of_true rfl rfl
  | cons u ts =>
    refine iff_of_false (fun h => ?_) (List.cons_ne_nil u ts)
    simp [Text.join, hseparator] at h

/-- The line is no more than the message exactly for an error without a cause. -/
theorem fatalLine_eq_message_iff {e : Error} :
    e.fatalLine = "error: " ++ e.message ↔ e.source? = none ∧ e.causes = [] := by
  rw [← chain_eq_nil_iff]
  generalize hmessage : e.message = m
  have hline : e.fatalLine = "error: " ++ Text.join ": " (m :: e.chain) := by rw [← hmessage]; rfl
  rw [hline, List.append_cancel_left_eq]
  exact join_cons_eq_self_iff (by decide)

end Error

/-! ### The end of a run -/

/-- What the program does last: nothing if it has done its audit, and else it tells the error. -/
def Program.farewell : Except Error Status → List Deed
  | .ok _ => []
  | .error e => [.messaged (e.fatalLine ++ ['\n'])]

theorem Program.execute_farewell [Url.Idna] [Wording] {W : Type} (s : System (StateM W))
    (a : Arguments) (x : W × List Deed) :
    (execute s.recorded a x).2.2 =
      (run s.recorded a x).2.2 ++ farewell (run s.recorded a x).1 := by
  cases h : (run s.recorded a x).1 with
  | error e => exact deeds_of_error h
  | ok status =>
    rw [deeds_of_ok h]
    exact (List.append_nil _).symm

/-- **The fatal line says a cause once more for every layer around it.** The line is the message of
the error, which says the words of all layers and then the innermost cause, and behind it, for every
layer that is taken off, what is left of the message; and last the causes that a failed connection
has told. So it is no more than the message exactly if the error has no cause. It is the last that
the program writes if it cannot do its audit, and is not written otherwise. -/
theorem Error.fatalLine_exact [Url.Idna] [Wording] (e : Error) {W : Type} (s : System (StateM W))
    (a : Arguments) (x : W × List Deed) :
    (e.core.source? = none ∧ e.message = e.layers.flatten ++ e.core.message ∧
      e.fatalLine = "error: " ++
        Text.join ": "
          ((e.layers.tails.map fun ls => ls.flatten ++ e.core.message) ++ e.core.causes) ∧
      (e.fatalLine = "error: " ++ e.message ↔ e.source? = none ∧ e.causes = [])) ∧
    (Program.execute s.recorded a x).2.2 =
      (Program.run s.recorded a x).2.2 ++ Program.farewell (Program.run s.recorded a x).1 := by
  refine ⟨⟨source?_core e, message_eq e, ?_, fatalLine_eq_message_iff⟩,
    Program.execute_farewell s a x⟩
  rw [← chain_eq]
  rfl

/-- **The fatal line repeats its cause**: it says twice why the rules could not be listed. -/
theorem Error.fatalLine_repeats :
    let e := listRules (.backend "unexpected status 503")
    e.message = "failed to list rules: backend request failed: unexpected status 503" ∧
      e.fatalLine = "error: " ++ e.message ++ ": backend request failed: unexpected status 503" ∧
      e.fatalLine ≠ "error: " ++ e.message := by
  decide +kernel

end RuleAudit
