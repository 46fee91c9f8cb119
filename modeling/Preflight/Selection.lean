import Preflight.Fault
import Preflight.Settings.Basic

/-! Which plugins settings choose among the available ones, and with what configuration. -/
namespace Preflight.Selection
variable {κ : Type}

def lastNamed? (name : κ → String) (wanted : String) (available : List κ) : Option κ :=
  available.reverse.find? (name · == wanted)

theorem lastNamed?_concat (name : κ → String) (wanted : String) (available : List κ) (k : κ) :
    lastNamed? name wanted (available ++ [k]) =
      if name k = wanted then some k else lastNamed? name wanted available := by
  by_cases h : name k = wanted <;> simp [lastNamed?, h]

/-- The distinct names in increasing order. -/
def offered (name : κ → String) (available : List κ) : List String :=
  ((available.map name).eraseDups).mergeSort fun a b => !(b < a)

def choose (name : κ → String) (available : List κ) (p : String × Settings.PluginSettings) :
    Except Fault (κ × List (String × Datum)) :=
  match lastNamed? name p.1 available with
  | some k => .ok (k, p.2.config)
  | none => .error (.unknownPlugin p.1 (offered name available))

/-- One plugin per enabled name, in the order of the settings. Of several available plugins with a
name the last one is taken. -/
def select (name : κ → String) (available : List κ) (a : Settings.AgentSettings) :
    Except Fault (List (κ × List (String × Datum))) :=
  (a.plugins.filter (·.2.enabled)).mapM (choose name available)

end Preflight.Selection
