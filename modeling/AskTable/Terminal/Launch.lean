import AskTable.Terminal.Basic

/-!
# Launching

* `Options.adjust`: settings as the options change them.
* `Launch`: what an assistant at a terminal works with; `Launch.prepare` makes it from the
  environment.
* `Launch.requests`: what a language model was asked in a run.
-/

namespace AskTable.Terminal

open AskTable.File AskTable.Model AskTable.Settings AskTable.Warehouse

/-- Settings as the options change them; an empty value changes nothing. -/
def Options.adjust (o : Options) (s : Settings) : Settings :=
  { s with
    uploads := (nonempty? o.uploads).getD s.uploads
    model := (nonempty? o.model).getD s.model }

/-- How questions are translated with some settings. -/
def translationOf (o : Options) (s : Settings) (e : Environment) : Translation where
  useModel := o.useModel
  key := s.apiKey
  model := some s.model
  envModel := e.get? "OPENAI_MODEL"

/-- Translates with a language model or by the rules. -/
def translatorOf (model : Request → Reply) (t : Translation) : Translator :=
  fun question schema => (translateOrPlan model t question schema).result.map .text

structure Launch where
  setup : Setup
  translation : Translation

namespace Launch

/-- What the assistant works with in an environment. -/
def prepare (disk : Disk) (e : Environment) (connector : Connector) (model : Request → Reply)
    (time : String) (o : Options) : Except Fault Launch := do
  let (settings, e) ← Settings.load disk none e
  let settings := o.adjust settings
  let translation := translationOf o settings e
  return {
    setup := {
      uploads := settings.uploads
      translator := translatorOf model translation
      service := ⟨settings.remote, connector⟩
      time }
    translation }

/-- What the model was asked, when the translator was asked this. -/
def requests (l : Launch) (model : Request → Reply) (consulted : List (Cell × List Descriptor)) :
    List Request :=
  consulted.flatMap fun c => (translateOrPlan model l.translation c.1 c.2).requests

end Launch

end AskTable.Terminal
