import HeaderFacts.Toml.Value

/-!
# Settings

A configuration before it is read: texts, lists and groups of named settings. Settings come in
layers. A later group is laid over an earlier one member by member, and anything else takes the
place of what was there.

Main definitions:

* `Setting` — a setting.
* `Setting.overlay` — a setting laid over an earlier one.
* `Toml.toSetting` — the setting that a TOML value gives.
-/

namespace HeaderFacts

/-- A setting. -/
inductive Setting where
  /-- Nothing: a place in a list that was passed over. -/
  | unset
  | text (value : String)
  | list (items : List Setting)
  | group (members : List (String × Setting))
  deriving Repr, Inhabited

namespace Setting

/-! ## Members -/

/-- The named settings of a group; other settings have none. -/
def members : Setting → List (String × Setting)
  | group members => members
  | _ => []

/-- The setting of a name in a group. -/
def member? (s : Setting) (name : String) : Option Setting :=
  s.members.lookup name

/-- The elements of a list; other settings have none. -/
def items : Setting → List Setting
  | list items => items
  | _ => []

/-- Puts a member in the place of one of its name, or at the end. -/
def putMember (name : String) (value : Setting) :
    List (String × Setting) → List (String × Setting)
  | [] => [(name, value)]
  | (n, v) :: rest => if n = name then (n, value) :: rest else (n, v) :: putMember name value rest

/-- Gives a name a setting; what is no group becomes one. -/
def assign (s : Setting) (name : String) (value : Setting) : Setting :=
  group (putMember name value s.members)

/-! ## Layers -/

mutual

/-- A setting laid over an earlier one. -/
def overlay : Setting → Option Setting → Setting
  | group members, old => overlayMembers members (old.getD (group []))
  | unset, _ => unset
  | text value, _ => text value
  | list items, _ => list items

/-- A setting with members laid over its own. -/
def overlayMembers : List (String × Setting) → Setting → Setting
  | [], s => s
  | (name, value) :: rest, s => overlayMembers rest (s.assign name (value.overlay (s.member? name)))

end

end Setting

/-! ## Settings of TOML values -/

mutual

/-- The setting that a TOML value gives; what is neither a list nor a table is a text. -/
def Toml.toSetting : Toml → Setting
  | .string s => .text s
  | .integer n => .text (toString n.toInt)
  | .float text => .text text
  | .bool b => .text (if b then "true" else "false")
  | .datetime text => .text text
  | .array items => .list (Toml.toSettings items)
  | .tables items => .list (Toml.toSettings items)
  | .table _ entries => .group (Toml.toMembers entries)

/-- The settings that TOML values give. -/
def Toml.toSettings : List Toml → List Setting
  | [] => []
  | item :: rest => item.toSetting :: Toml.toSettings rest

/-- The members that the entries of a table give. -/
def Toml.toMembers : List (String × Toml) → List (String × Setting)
  | [] => []
  | (key, value) :: rest => (key, value.toSetting) :: Toml.toMembers rest

end

end HeaderFacts
