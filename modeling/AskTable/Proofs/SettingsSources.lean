import AskTable.Proofs.AbsolutePaths
import AskTable.Proofs.Plans
import AskTable.Proofs.Rows
import AskTable.Settings.Basic
import Mathlib.Data.List.Basic

/-!
# Where settings come from

Settings are read from an environment that a file has extended before. A value that is empty counts
as given while the file is added, and as missing while the settings are read. So a variable that is
empty in the environment has its default, whatever the file says of it. What the file says depends
on the environment, because it may refer to other values, but which names it gives does not. So the
environment that was extended once lacks nothing more.

* `givenBy`: the values that a file gives in an environment.
* `nodup_resolved`, `map_valued_resolved`: its names are distinct, and they do not depend on the
  environment.
* `Environment.lacks?`, `extend_eq_ok`: the environment is extended by the values that it lacks.
* `inEither`, `get?_extended`: the environment goes first, and then the file.
* `extend_of_present`: nothing is added that is there.
* `listed_eq_iff`: a list of names is made of the pieces between commas that are not blank.
* `IsUploads`, `IsTimeout`, `Follows`: settings that are computed from values by name.
* `load_follows`: what settings are computed from, and that they are stable.
-/

namespace AskTable

/-! ## Entries -/

namespace Entries

variable {α β γ κ : Type} [DecidableEq κ] {keyOf : α → κ}

/-- Values can be replaced before one is put, or after it. -/
theorem map_put (g : β → γ) (a : α) (v : β) (entries : List (α × β)) :
    (put keyOf a v entries).map (fun e => (e.1, g e.2)) =
      put keyOf a (g v) (entries.map fun e => (e.1, g e.2)) := by
  induction entries with
  | nil => rfl
  | cons e entries ih =>
    rw [put, List.map_cons, put]
    split
    · rfl
    · rw [List.map_cons, ih]

end Entries

namespace Settings

open AskTable.File AskTable.Number AskTable.Question AskTable.Text

variable {e extended : Environment} {given : Given}

/-! ## What a file gives -/

/-- The values that the environment file gives in an environment. -/
def givenBy (disk : Disk) (named : Option String) (e : Environment) : Except Fault Given :=
  (fileText disk (environmentPath disk named)).map fun text =>
    resolved e (bindings (unifyLines text))

theorem nodup_resolved (e : Environment) (bs : List Binding) :
    (Entries.keys id (resolved e bs)).Nodup := by
  have hfold : ∀ given : Given, (Entries.keys id given).Nodup →
      (Entries.keys id (bs.foldl (giveValue e) given)).Nodup := by
    induction bs with
    | nil => exact fun given h => h
    | cons b bs ih => exact fun given h => ih _ (Entries.nodup_put _ _ h)
  exact hfold [] (by simp [Entries.keys])

/-- A name, and whether it has a value. -/
def valued (p : String × Option String) : String × Bool := (p.1, p.2.isSome)

/-- Which names a file gives, and which of them with a value, does not depend on the environment. -/
theorem map_valued_resolved (e : Environment) (bs : List Binding) :
    (resolved e bs).map valued =
      bs.foldl (fun names b => Entries.put id b.name b.value.isSome names) [] := by
  have hfold : ∀ given : Given, (bs.foldl (giveValue e) given).map valued =
      bs.foldl (fun names b => Entries.put id b.name b.value.isSome names) (given.map valued) := by
    induction bs with
    | nil => exact fun given => rfl
    | cons b bs ih =>
      intro given
      rw [List.foldl_cons, ih, List.foldl_cons]
      refine congrArg (bs.foldl _) ((Entries.map_put Option.isSome _ _ given).trans ?_)
      rw [Option.isSome_map]
      rfl
  exact hfold []

/-! ## Extending the environment -/

/-- A value that the environment lacks, with its name. -/
def Environment.lacks? (e : Environment) (p : String × Option String) :
    Option (String × String) :=
  if (e.get? p.1).isSome then none else p.2.map fun value => (p.1, value)

/-- The value of a name: that of the environment, even if it is empty, or else that of the file. -/
def inEither (e : Environment) (given : Given) (name : String) : Option String :=
  (e.get? name).or (Entries.find? id name given).join

theorem get?_append (e others : Environment) (name : String) :
    Environment.get? (e ++ others) name = (e.get? name).or (Environment.get? others name) :=
  Entries.find?_append name e others

/-- The environment is extended by the values that it lacks. -/
theorem extend_eq_ok (hnodup : (Entries.keys id given).Nodup)
    (h : e.extend given = .ok extended) : extended = e ++ given.filterMap e.lacks? := by
  induction given generalizing e with
  | nil =>
    cases h
    rw [List.filterMap_nil, List.append_nil]
  | cons p given ih =>
    obtain ⟨name, value⟩ := p
    rw [Entries.keys, List.map_cons, List.nodup_cons] at hnodup
    obtain ⟨hnew, hnodup⟩ := hnodup
    cases value with
    | none =>
      rw [ih hnodup h, List.filterMap_cons_none (by simp [Environment.lacks?])]
    | some value =>
      rw [Environment.extend] at h
      split at h
      · rename_i hthere
        rw [ih hnodup h, List.filterMap_cons_none (by simp [Environment.lacks?, hthere])]
      · rename_i hlacks
        split at h
        · cases h
        · -- what follows has other names, so that the new value makes no difference to it
          have hrest : given.filterMap (Environment.lacks? (e ++ [(name, value)])) =
              given.filterMap e.lacks? := by
            refine List.filterMap_congr fun p hp => ?_
            have hne : name ≠ p.1 :=
              fun hname => hnew (List.mem_map.mpr ⟨p, hp, hname.symm⟩)
            have hget : Environment.get? (e ++ [(name, value)]) p.1 = e.get? p.1 := by
              rw [get?_append]
              simp [Environment.get?, Entries.find?, hne]
            rw [Environment.lacks?, Environment.lacks?, hget]
          rw [ih hnodup h, hrest, List.append_assoc, List.singleton_append,
            List.filterMap_cons_some (b := (name, value)) (by simp [Environment.lacks?, hlacks])]

/-- Of the values that are lacking, that of a name is what the file gives. -/
theorem get?_filterMap_lacks? (hnodup : (Entries.keys id given).Nodup) {name : String}
    (hlacks : e.get? name = none) :
    Environment.get? (given.filterMap e.lacks?) name = (Entries.find? id name given).join := by
  induction given with
  | nil => rfl
  | cons p given ih =>
    obtain ⟨other, value⟩ := p
    rw [Entries.keys, List.map_cons, List.nodup_cons] at hnodup
    obtain ⟨hnew, hnodup⟩ := hnodup
    have ih := ih hnodup
    have hfind : Entries.find? id name ((other, value) :: given) =
        if other = name then some value else Entries.find? id name given := rfl
    by_cases hname : other = name
    · subst hname
      rw [hfind, if_pos rfl]
      cases value with
      | none =>
        have hmissing : Entries.find? id other given = none := Entries.find?_of_not_mem hnew
        rw [List.filterMap_cons_none (by simp [Environment.lacks?]), ih, hmissing]
        rfl
      | some value =>
        rw [List.filterMap_cons_some (b := (other, value)) (by simp [Environment.lacks?, hlacks])]
        simp [Environment.get?, Entries.find?]
    · rw [hfind, if_neg hname, ← ih]
      cases hvalue : e.lacks? (other, value) with
      | none => rw [List.filterMap_cons_none hvalue]
      | some p =>
        have hp : p.1 = other := by
          simp only [Environment.lacks?, Option.ite_none_left_eq_some,
            Option.map_eq_some_iff] at hvalue
          obtain ⟨-, value, -, rfl⟩ := hvalue
          rfl
        rw [List.filterMap_cons_some hvalue, Environment.get?, Entries.find?,
          if_neg (by simpa [hp] using hname)]
        rfl

/-- In the extended environment every name has the value of either. -/
theorem get?_extended (hnodup : (Entries.keys id given).Nodup)
    (h : e.extend given = .ok extended) (name : String) :
    extended.get? name = inEither e given name := by
  rw [extend_eq_ok hnodup h, get?_append, inEither]
  cases hname : e.get? name with
  | some value => rfl
  | none => rw [get?_filterMap_lacks? hnodup hname]

/-- Nothing is added that is there. -/
theorem extend_of_present (h : ∀ p ∈ given, p.2.isSome = true → (e.get? p.1).isSome = true) :
    e.extend given = .ok e := by
  induction given with
  | nil => rfl
  | cons p given ih =>
    obtain ⟨hp, hrest⟩ := List.forall_mem_cons.mp h
    obtain ⟨name, value⟩ := p
    cases value with
    | none => exact ih hrest
    | some value => rw [Environment.extend, if_pos (hp rfl), ih hrest]

/-- The environment that a file has extended lacks nothing that the file gives in it. -/
theorem extend_extended {bs : List Binding} (h : e.extend (resolved e bs) = .ok extended) :
    extended.extend (resolved extended bs) = .ok extended := by
  refine extend_of_present fun p hp hsome => ?_
  have hvalued : (p.1, true) ∈ (resolved e bs).map valued := by
    rw [map_valued_resolved, ← map_valued_resolved extended, ← hsome]
    exact List.mem_map_of_mem (f := valued) hp
  obtain ⟨q, hq, hpq⟩ := List.mem_map.mp hvalued
  obtain ⟨hname, hvalue⟩ := Prod.mk.inj hpq
  have hfound : Entries.find? id p.1 (resolved e bs) = some q.2 := by
    rw [← hname]
    exact Entries.find?_of_mem (nodup_resolved e bs) hq
  rw [get?_extended (nodup_resolved e bs) h, inEither, hfound, Option.isSome_or]
  simp [hvalue]

/-! ## Settings -/

/-- The value of a name, unless it is empty. -/
def filled (value : String → Option String) (name : String) : Option String :=
  (value name).filter fun v => !v.isEmpty

/-- A list names the stripped pieces between its commas, apart from empty ones. -/
theorem listed_eq_iff {text : String} {names : List String} :
    listed text = names ↔
      ∃ pieces, ArePieces text.toList pieces ∧ names = pieces.filter fun piece => !piece.isEmpty := by
  simp only [← map_trim_splitOn_eq_iff, exists_eq_left']
  exact eq_comm

/-- The folder of the data files is the given one as seen from the working folder, or else the default
one. Working folders are absolute. -/
def IsUploads (workingFolder : String) : Option String → String → Prop
  | none, uploads => isAbsolute workingFolder = true → uploads = defaultUploads workingFolder
  | some folder, uploads => uploads = absolute workingFolder folder

/-- The time for a login is the whole number in the given text, or else the default one. -/
def IsTimeout : Option String → Cell → Prop
  | none, timeout => timeout = RemoteConfig.default.loginTimeout
  | some text, timeout => ∃ n, readWhole text = .ok n ∧ timeout = .int n

/-- Settings are computed from values by name: each field from its own value, or else it has its
default. -/
structure Follows (workingFolder : String) (value : String → Option String) (s : Settings) :
    Prop where
  uploads : IsUploads workingFolder (filled value "SQLASSIST_UPLOADS_DIR") s.uploads
  apiKey : s.apiKey = filled value "OPENAI_API_KEY"
  model : s.model = (filled value "OPENAI_MODEL").getD "gpt-4o-mini"
  account : s.remote.account =
    (filled value "SNOWFLAKE_ACCOUNT").or RemoteConfig.default.account
  user : s.remote.user = (filled value "SNOWFLAKE_USER").or RemoteConfig.default.user
  role : s.remote.role = (filled value "SNOWFLAKE_ROLE").or RemoteConfig.default.role
  database : s.remote.database =
    (filled value "SNOWFLAKE_DATABASE").or RemoteConfig.default.database
  schema : s.remote.schema = (filled value "SNOWFLAKE_SCHEMA").or RemoteConfig.default.schema
  authenticator : s.remote.authenticator =
    (filled value "SNOWFLAKE_AUTHENTICATOR").or RemoteConfig.default.authenticator
  warehouses : s.remote.warehouses =
    ((filled value "SNOWFLAKE_WAREHOUSES").map listed).getD RemoteConfig.default.warehouses
  loginTimeout : IsTimeout (filled value "SNOWFLAKE_LOGIN_TIMEOUT") s.remote.loginTimeout

theorem loginTimeout_eq_ok {timeout : Cell} (h : loginTimeout e = .ok timeout) :
    IsTimeout (filled e.get? "SNOWFLAKE_LOGIN_TIMEOUT") timeout := by
  have hvalue : value? e "SNOWFLAKE_LOGIN_TIMEOUT" =
      filled e.get? "SNOWFLAKE_LOGIN_TIMEOUT" := rfl
  rw [loginTimeout, hvalue] at h
  cases hfilled : filled e.get? "SNOWFLAKE_LOGIN_TIMEOUT" with
  | none =>
    have hdefault : readWhole "120" = .ok 120 := by decide +kernel
    rw [hfilled, Option.getD_none, hdefault] at h
    cases h
    rfl
  | some text =>
    rw [hfilled, Option.getD_some] at h
    cases hread : readWhole text with
    | error fault => simp [hread] at h
    | ok n =>
      rw [hread] at h
      cases h
      exact ⟨n, hread, rfl⟩

theorem isUploads_absolute (workingFolder : String) (folder : Option String) :
    IsUploads workingFolder folder
      (absolute workingFolder (folder.getD (defaultUploads workingFolder))) := by
  cases folder with
  | none => exact fun hroot => absolute_absolute hroot "uploads"
  | some folder => rfl

theorem follows_of_ofEnvironment {workingFolder : String} {settings : Settings}
    (h : ofEnvironment workingFolder e = .ok settings) : Follows workingFolder e.get? settings := by
  obtain ⟨timeout, htimeout, hsettings⟩ := bind_eq_ok.mp h
  cases hsettings
  have hdefault (value : Option String) (text : String) :
      some (value.getD text) = value.or (some text) := by cases value <;> rfl
  exact {
    uploads := isUploads_absolute _ _
    apiKey := rfl
    model := rfl
    account := (Option.or_none ..).symm
    user := (Option.or_none ..).symm
    role := hdefault _ _
    database := (Option.or_none ..).symm
    schema := (Option.or_none ..).symm
    authenticator := hdefault _ _
    warehouses := rfl
    loginTimeout := loginTimeout_eq_ok htimeout }

theorem loadFile_eq_ok {disk : Disk} {path : String} :
    loadFile disk path e = .ok extended ↔ ∃ text, fileText disk path = .ok text ∧
      e.extend (resolved e (bindings (unifyLines text))) = .ok extended :=
  bind_eq_ok

/-- **Where settings come from.** Every field is computed from the value that the environment has
for its name, even an empty one, or else from that of the file; an empty value counts as none, and
then the field has its default. The environment is extended by the values of the file that it
lacked. In the extended environment, the same file leads to the same settings and extends nothing. -/
theorem load_follows {disk : Disk} {named : Option String} {settings : Settings}
    (h : load disk named e = .ok (settings, extended)) :
    ∃ given, givenBy disk named e = .ok given ∧
      Follows disk.workingFolder (inEither e given) settings ∧
      extended = e ++ given.filterMap e.lacks? ∧
      (∀ name, extended.get? name = inEither e given name) ∧
      load disk named extended = .ok (settings, extended) := by
  obtain ⟨_, hfile, hrest⟩ := bind_eq_ok.mp h
  obtain ⟨_, hsettings, hpair⟩ := bind_eq_ok.mp hrest
  cases hpair
  obtain ⟨text, htext, hextend⟩ := loadFile_eq_ok.mp hfile
  have hnodup := nodup_resolved e (bindings (unifyLines text))
  have hget := get?_extended hnodup hextend
  refine ⟨_, by rw [givenBy, htext]; rfl, ?_, extend_eq_ok hnodup hextend, hget, ?_⟩
  · rw [← funext hget]
    exact follows_of_ofEnvironment hsettings
  · have hagain : loadFile disk (environmentPath disk named) extended = .ok extended :=
      loadFile_eq_ok.mpr ⟨text, htext, extend_extended hextend⟩
    exact bind_eq_ok.mpr ⟨_, hagain, bind_eq_ok.mpr ⟨_, hsettings, rfl⟩⟩

/-- The file changes the name after the role has been read by it, so that reading the file again
gives another role. Its list of warehouses has an empty place. -/
def changingDisk : Disk where
  workingFolder := "/srv"
  entries := [("/srv/.env", .file (.text <|
    "ROLE_NAME=LOADER\nSNOWFLAKE_ROLE=$\x7bROLE_NAME\x7d\nROLE_NAME=READER\n" ++
      "OPENAI_MODEL=gpt-5\nSNOWFLAKE_USER=bob\nSNOWFLAKE_WAREHOUSES=\" WH_A, ,WH_B \"\n"))]

def changingSettings : Settings where
  uploads := "/srv/tables"
  apiKey := none
  model := "gpt-4o-mini"
  remote := { RemoteConfig.default with
    user := some "ada"
    role := some "LOADER"
    warehouses := ["WH_A", "WH_B"]
    loginTimeout := .int 45 }

/-- An empty model is the default one, although the file names another. -/
def changingEnvironment : Environment :=
  [("OPENAI_MODEL", ""), ("SNOWFLAKE_USER", "ada"), ("SNOWFLAKE_LOGIN_TIMEOUT", " 45 "),
    ("SQLASSIST_UPLOADS_DIR", "data/../tables")]

def changedEnvironment : Environment :=
  changingEnvironment ++ [("ROLE_NAME", "READER"), ("SNOWFLAKE_ROLE", "LOADER"),
    ("SNOWFLAKE_WAREHOUSES", " WH_A, ,WH_B ")]

theorem load_follows_changing :
    load changingDisk none changingEnvironment = .ok (changingSettings, changedEnvironment) ∧
      ∃ given, givenBy changingDisk none changingEnvironment = .ok given ∧
        Follows "/srv" (inEither changingEnvironment given) changingSettings ∧
        changedEnvironment = changingEnvironment ++ given.filterMap changingEnvironment.lacks? ∧
        (∀ name, changedEnvironment.get? name = inEither changingEnvironment given name) ∧
        load changingDisk none changedEnvironment = .ok (changingSettings, changedEnvironment) := by
  have hfile : loadFile changingDisk (environmentPath changingDisk none) changingEnvironment =
      .ok changedEnvironment := by decide +kernel
  have hsettings : ofEnvironment "/srv" changedEnvironment = .ok changingSettings := by rfl
  have h : load changingDisk none changingEnvironment =
      .ok (changingSettings, changedEnvironment) :=
    bind_eq_ok.mpr ⟨_, hfile, bind_eq_ok.mpr ⟨_, hsettings, rfl⟩⟩
  exact ⟨h, load_follows h⟩

end Settings

end AskTable
