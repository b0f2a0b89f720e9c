import Grapher.Session.State

/-!
What the edits of a session mean for the pair of its settings and its entries, said without indexing:
an entry is found by what stands before and behind it.
-/

namespace Grapher

def Edit.target? : Edit → Option Nat
  | remove index | setEnabled index _ | setExpression index _ => some index
  | _ => none

def Edit.settings? : Edit → Option Settings
  | restart settings | setSettings settings => some settings
  | _ => none

/-- From settings and entries, an edit leads to a reply and to new ones. -/
inductive EditRule (word : WordSize) :
    Settings × List Entry → Edit → Except EditError Reply → Settings × List Entry → Prop where
  | reset {state} :
      EditRule word state .reset (.ok .done) ({}, [⟨"sin(x)", true, "blue"⟩, ⟨"cos(x)", true, "red"⟩])
  | restart {state settings} (accepted : settings.check word = .ok ()) :
      EditRule word state (.restart settings) (.ok .done) (settings, [])
  | setSettings {old entries settings} (accepted : settings.check word = .ok ()) :
      EditRule word (old, entries) (.setSettings settings) (.ok .done) (settings, entries)
  | add {settings entries expression color} :
      EditRule word (settings, entries) (.add expression color) (.ok (.index entries.length))
        (settings, entries ++ [⟨expression, true, color⟩])
  | remove {settings entry} {before behind : List Entry} :
      EditRule word (settings, before ++ entry :: behind) (.remove before.length) (.ok (.removed entry))
        (settings, before ++ behind)
  | setEnabled {settings entry enabled} {before behind : List Entry} :
      EditRule word (settings, before ++ entry :: behind) (.setEnabled before.length enabled)
        (.ok .done)
        (settings, before ++ { entry with enabled } :: behind)
  | setExpression {settings entry expression} {before behind : List Entry} :
      EditRule word (settings, before ++ entry :: behind) (.setExpression before.length expression)
        (.ok .done)
        (settings, before ++ { entry with expression } :: behind)
  | refused {state edit settings failure} (brings : edit.settings? = some settings)
      (fails : settings.check word = .error failure) :
      EditRule word state edit (.error (.settings failure)) state
  | outOfRange {settings edit index} {entries : List Entry} (about : edit.target? = some index)
      (beyond : entries.length ≤ index) :
      EditRule word (settings, entries) edit (.error (.index ⟨index, entries.length⟩))
        (settings, entries)

inductive EditRules (word : WordSize) : Settings × List Entry → List Edit →
    List (Except EditError Reply) → Settings × List Entry → Prop where
  | done {state} : EditRules word state [] [] state
  | step {first second last edit edits reply replies} (rule : EditRule word first edit reply second)
      (rules : EditRules word second edits replies last) :
      EditRules word first (edit :: edits) (reply :: replies) last

namespace Session

def pair (session : Session) : Settings × List Entry :=
  (session.settings, session.curves)

def reply (session : Session) (edit : Edit) (word : WordSize := .long) : Except EditError Reply :=
  (session.edit edit word).map (·.2)

/-- What an edit answers, and the settings and entries it leaves. -/
def Takes (session : Session) (edit : Edit) (word : WordSize) (reply : Except EditError Reply)
    (after : Settings × List Entry) : Prop :=
  session.reply edit word = reply ∧ (session.apply edit word).pair = after

def run (session : Session) (edits : List Edit) (word : WordSize := .long) :
    List (Except EditError Reply) × Session :=
  match edits with
  | [] => ([], session)
  | edit :: edits =>
    let (replies, last) := (session.apply edit word).run edits word
    (session.reply edit word :: replies, last)

end Session
end Grapher
