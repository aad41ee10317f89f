import ExitGesture.Config.Basic

/-!
# Where a configuration comes from

A host either keeps stored settings and a measured display, and builds a configuration from them
whenever it is asked, or it serves one configuration as it is.  Both know where their header is.
-/

namespace ExitGesture

/-- A source of configurations. -/
inductive Provider
  | stored (settings : Settings) (display : Display) (header : Rect)
  | fixed (config : Config) (header : Rect)

namespace Provider

/-- A header across the top of the standard screen. -/
def standardHeader : Rect := ⟨0, 0, 1080, 160⟩

/-- A phone-sized screen with the standard thresholds and a header. -/
def phone (g : Gesture) : Provider :=
  .fixed (Config.forScreen g 1080 1920) standardHeader

def config : Provider → Except ConfigError Config
  | .stored settings display _ => Config.ofSettings settings display
  | .fixed config _ => .ok config

def header : Provider → Rect
  | .stored _ _ header => header
  | .fixed _ header => header

/-- A change of what a provider keeps. -/
inductive Change
  | settings (settings : Settings)
  | display (display : Display)
  | config (config : Config)
  | header (header : Rect)

/-- Make a change.  A provider passes over a change of something that it does not keep. -/
def update : Provider → Change → Provider
  | .stored _ display header, .settings settings => .stored settings display header
  | .stored settings _ header, .display display => .stored settings display header
  | .stored settings display _, .header header => .stored settings display header
  | .stored settings display header, .config _ => .stored settings display header
  | .fixed _ header, .config config => .fixed config header
  | .fixed config _, .header header => .fixed config header
  | .fixed config header, .settings _ | .fixed config header, .display _ => .fixed config header

theorem header_update {p : Provider} {c : Change} (h : ∀ r, c ≠ .header r) :
    (p.update c).header = p.header := by
  cases p <;> cases c <;> simp_all [update, header]

end Provider
end ExitGesture
