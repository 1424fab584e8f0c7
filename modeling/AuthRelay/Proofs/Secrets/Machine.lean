import AuthRelay.Proofs.Loading
import AuthRelay.Proofs.Secrets.Files
import AuthRelay.Proofs.Secrets.References
import AuthRelay.Proofs.Secrets.Texts
/-!
# Machines that differ in secrets

What the library reads of a machine and what it loads into its environment, on two machines that
differ in the values of secret variables and in the contents of secret files. Where no path of a
secret file and no environment file refers to a secret variable, both come to the same failures and
the same records, and to credentials that differ in secrets only.
-/
namespace AuthRelay

/-- Two machines that differ in secrets only. -/
structure Machine.Twins (V : Veil) (machine machine' : Machine) : Prop where
  environment : Environment.Twins V machine.environment machine'.environment
  files : machine.files.Twins machine'.files
  homes : machine.homes = machine'.homes

/-- The two machines that are given, and no others. -/
def Machine.Held (held held' machine machine' : Machine) : Prop :=
  held = machine ∧ held' = machine'

namespace Veil

/-- A path text that refers to no secret variable. -/
def ClearPath (V : Veil) (path : String) : Prop :=
  ∀ name ∈ PathText.references path, ¬ V.covers name

/-- A variable whose value, if it is bound, is a path that refers to no secret variable. -/
def ClearVariable (V : Veil) (environment : Environment) (name : String) : Prop :=
  ∀ path, environment.find? name = some path → V.ClearPath path

/-- A secret file that is found, under the path that is given or else under the value of a variable,
without the help of a secret variable. -/
structure ClearFile (V : Veil) (environment : Environment) (path name : Option String) : Prop where
  given : ∀ text, path = some text → V.ClearPath text
  bound : ∀ n, path = none → name = some n → ¬ V.covers n ∧ V.ClearVariable environment n

/-- No variable that names the file of a password refers to a secret variable. -/
def PathsClear (V : Veil) (environment : Environment) : Prop :=
  ∀ stem, V.ClearVariable environment (FromEnvironment.fileVariable stem)

theorem pathsClear_of_references_nil {V : Veil} {environment : Environment}
    (h : ∀ entry ∈ environment, PathText.references entry.2 = []) : V.PathsClear environment := by
  intro stem path hfound name hmem
  rw [h _ (Table.mem_of_find? hfound)] at hmem
  cases hmem

end Veil

variable {V : Veil} {machine machine' : Machine}

/-! ## Reading secrets -/

namespace Resolver

/-- A value is found in the same place. -/
theorem origin?_related {S : String → String → Prop} {environment environment' : Environment}
    (h : Environment.Twins V environment environment') {value value' name fallback fallback' :
    Option String} (hvalue : Option.Rel S value value')
    (hname : ∀ n, name = some n → ∀ s t, V.Under n s t → S s t)
    (hfallback : Option.Rel S fallback fallback') :
    Option.Rel (fun found found' => S found.1 found'.1 ∧ found.2 = found'.2)
      (origin? environment value name fallback) (origin? environment' value' name fallback') := by
  -- the same names are bound on both sides, so the three places are tried alike
  have hbinding : Option.Rel (fun found found' => found.1 = found'.1 ∧ S found.2 found'.2)
      (binding? environment name) (binding? environment' name) := by
    cases name with
    | none => exact .none
    | some n =>
      have hfound := Table.Related.find? h n
      simp only [binding?]
      by_cases hn : n = ""
      · rw [if_pos hn, if_pos hn]
        exact .none
      · rw [if_neg hn, if_neg hn]
        generalize environment.find? n = found, environment'.find? n = found' at hfound
        cases hfound with
        | none => exact .none
        | some hunder => exact .some ⟨rfl, hname n rfl _ _ hunder⟩
  unfold origin?
  cases hvalue with
  | some hs => exact .some ⟨hs, rfl⟩
  | none =>
    generalize binding? environment name = found, binding? environment' name = found' at hbinding
    cases hbinding with
    | some hfound =>
      refine .some ⟨hfound.2, ?_⟩
      dsimp only
      rw [hfound.1]
    | none =>
      cases hfallback with
      | some hs => exact .some ⟨hs, rfl⟩
      | none => exact .none

theorem resolve_inStep {S : String → String → Prop} (h : machine.Twins V machine')
    {value value' name fallback fallback' : Option String} (hvalue : Option.Rel S value value')
    (hname : ∀ n, name = some n → ∀ s t, V.Under n s t → S s t)
    (hfallback : Option.Rel S fallback fallback') (required : Bool) :
    Act.InStep (Machine.Held machine machine') (Option.Rel S)
      (resolve value name fallback required) (resolve value' name fallback' required) := by
  refine .get_bind ?_
  rintro _ _ ⟨rfl, rfl⟩
  have horigin := origin?_related h.environment hvalue hname hfallback
  generalize origin? machine.environment value name fallback = found,
    origin? machine'.environment value' name fallback' = found' at horigin
  cases horigin with
  | none => exact .ite .rfl (.fail _) (.pure .none)
  | some hfound =>
    dsimp only
    rw [hfound.2]
    exact (Act.InStep.log _ _ _).bind fun _ _ _ => .pure (.some hfound.1)

/-- What is read is blank in both files or in neither. -/
theorem readSecret_corresponds {files files' : Files} (h : files.Twins files') (path : String) :
    Corresponds (fun s t => s = "" ↔ t = "") (readSecret files path) (readSecret files' path) := by
  have hread := h.read path
  unfold readSecret
  by_cases hnul : holdsNul path = true
  · rw [if_pos hnul, if_pos hnul]
    exact .error _
  · rw [if_neg hnul, if_neg hnul]
    generalize files.read path = found, files'.read path = found' at hread
    cases hread with
    | error reason => cases reason <;> exact .error _
    | ok hcontent =>
      rcases hcontent with rfl | ⟨s, t, hs, ht, hblank⟩
      · exact (Corresponds.of_eq rfl).mono fun _ _ heq => by rw [heq]
      · simp only [hs, ht]
        exact .ok hblank

/-- The path that is opened does not depend on a secret. -/
theorem expandedPath_eq (h : machine.Twins V machine') {path : String} (hpath : V.ClearPath path) :
    expandedPath machine path = expandedPath machine' path := by
  have hvariables : PathText.expandVariables machine.environment path =
      PathText.expandVariables machine'.environment path :=
    PathText.expandVariables_congr fun name hmem => h.environment.find?_eq (hpath name hmem)
  have hhome : ∀ name, PathText.home? machine name = PathText.home? machine' name := by
    intro name
    rw [PathText.home?, PathText.home?, h.homes, h.environment.find?_eq Veil.not_covers_home]
  simp only [expandedPath, hvariables, PathText.expandHome, hhome]

/-- The path of a secret file is the same, and it refers to no secret variable. -/
theorem secretPath_inStep (h : machine.Twins V machine') {path name : Option String}
    (hclear : V.ClearFile machine.environment path name) :
    Act.InStep (Machine.Held machine machine')
      (fun found found' => found = found' ∧ ∀ text, found = some text → V.ClearPath text)
      (secretPath path name) (secretPath path name) := by
  unfold secretPath
  cases path with
  | some text => exact .pure ⟨rfl, hclear.given⟩
  | none =>
    cases name with
    | none => exact .pure ⟨rfl, nofun⟩
    | some n =>
      obtain ⟨hcovers, hclear⟩ := hclear.bound n rfl rfl
      refine .ite .rfl (.pure ⟨rfl, nofun⟩) ?_
      -- what is resolved is what the variable holds
      refine .get_bind ?_
      rintro _ _ ⟨rfl, rfl⟩
      have hfind := h.environment.find?_eq hcovers
      simp only [origin?, binding?]
      by_cases hn : n = ""
      · simp only [if_pos hn]
        exact .pure ⟨rfl, nofun⟩
      · simp only [if_neg hn, ← hfind]
        cases hfound : machine.environment.find? n with
        | none => exact .pure ⟨rfl, nofun⟩
        | some value =>
          refine (Act.InStep.log _ _ _).bind fun _ _ _ => .pure ⟨rfl, ?_⟩
          rintro text ⟨⟩
          exact hclear value hfound

theorem resolveFromFile_inStep (h : machine.Twins V machine') {path name : Option String}
    (hclear : V.ClearFile machine.environment path name) (required : Bool) :
    Act.InStep (Machine.Held machine machine') (Option.Rel fun s t => s = "" ↔ t = "")
      (resolveFromFile path name required) (resolveFromFile path name required) := by
  refine (secretPath_inStep h hclear).bind ?_
  rintro found _ ⟨rfl, hfound⟩
  cases hfilter : found.filter (· ≠ "") with
  | none => exact .ite .rfl (.fail _) (.pure .none)
  | some text =>
    have hclear : V.ClearPath text := by
      rw [Option.filter_eq_some_iff] at hfilter
      exact hfound text hfilter.1
    refine .get_bind ?_
    rintro _ _ ⟨rfl, rfl⟩
    have hread := readSecret_corresponds h.files (expandedPath machine text)
    dsimp only
    rw [← expandedPath_eq h hclear]
    generalize readSecret machine.files (expandedPath machine text) = secret,
      readSecret machine'.files (expandedPath machine text) = secret' at hread
    -- the record tells the path, which does not depend on a secret
    cases hread with
    | ok hsecret => exact (Act.InStep.log _ _ _).bind fun _ _ _ => .pure (.some hsecret)
    | error fault =>
      cases fault with
      | secretFile cause =>
        exact .ite .rfl (.fail _) ((Act.InStep.log _ _ _).bind fun _ _ _ => .pure .none)
      | _ => exact .fail _

end Resolver

namespace FromEnvironment

theorem resolveField_inStep (h : machine.Twins V machine') (stem : String) (field : Field) :
    Act.InStep (Machine.Held machine machine') (Option.Rel Veiled) (resolveField stem field)
      (resolveField stem field) :=
  Resolver.resolve_inStep h .none (fun _ _ _ _ hunder => hunder.veiled) .none false

theorem orFile_inStep (h : machine.Twins V machine') (hclear : V.PathsClear machine.environment)
    (stem : String) {password password' : Option String}
    (hpassword : Option.Rel Veiled password password') :
    Act.InStep (Machine.Held machine machine') (Option.Rel fun s t => s = "" ↔ t = "")
      (orFile stem password) (orFile stem password') := by
  cases hpassword with
  | some hveiled => exact .pure (.some hveiled.empty)
  | none =>
    refine Resolver.resolveFromFile_inStep h ⟨(fun _ hgiven => by cases hgiven), ?_⟩ false
    rintro _ - ⟨⟩
    exact ⟨Veil.not_covers_fileVariable stem, hclear stem⟩

theorem getD_related {S : String → String → Prop} (hempty : S "" "") {s t : Option String}
    (h : Option.Rel S s t) : S (s.getD "") (t.getD "") := by
  cases h with
  | some h => exact h
  | none => exact hempty

/-- Credentials that are read from the environment differ in secrets only. -/
theorem credentials_inStep (h : machine.Twins V machine')
    (hclear : V.PathsClear machine.environment) (stem : String) (required : Bool) :
    Act.InStep (Machine.Held machine machine') CredentialSet.Twins (credentials stem required)
      (credentials stem required) := by
  refine (resolveField_inStep h stem _).bind fun username username' husername => ?_
  refine (resolveField_inStep h stem _).bind fun password password' hpassword => ?_
  refine (resolveField_inStep h stem _).bind fun auth auth' hauth => ?_
  refine (resolveField_inStep h stem _).bind fun token token' htoken => ?_
  refine (orFile_inStep h hclear stem hpassword).bind fun secret secret' hsecret => ?_
  have htwins : CredentialSet.Twins
      ⟨username.getD "", secret.getD "", auth.getD "", token.getD ""⟩
      ⟨username'.getD "", secret'.getD "", auth'.getD "", token'.getD ""⟩ :=
    ⟨(getD_related (.refl "") husername).empty, getD_related .rfl hsecret,
      getD_related (.refl "") hauth, getD_related (.refl "") htoken⟩
  have hlog := Act.InStep.log (R := Machine.Held machine machine') .debug .credentials
    ("No credentials in environment for prefix '" ++ stem ++ "', using anonymous")
  refine .ite htwins.eq_empty_iff (.ite .rfl ?_ ?_) (.pure htwins)
  · exact (Act.InStep.fail _ (S := Eq)).bind fun _ _ _ => hlog.bind fun _ _ _ => .pure htwins
  · exact hlog.bind fun _ _ _ => .pure htwins

end FromEnvironment

/-! ## Loading environment files -/

namespace EnvFile

/-- Two tables of values that differ in secrets only. -/
def Values.Twins (V : Veil) (values values' : Values) : Prop :=
  Table.Related (fun name => Option.Rel (V.Under name)) values values'

variable {environment environment' : Environment} {values values' : Values}

/-- A reference to a variable that holds no secret finds the same. -/
theorem lookUp_eq (h : Environment.Twins V environment environment')
    (hvalues : Values.Twins V values values') {name : String} (hname : ¬ V.covers name) :
    lookUp environment values name = lookUp environment' values' name := by
  have hfound := Table.Related.find? hvalues name
  unfold lookUp
  rw [h.find?_eq hname]
  generalize values.find? name = found, values'.find? name = found' at hfound
  cases environment'.find? name with
  | some value => rfl
  | none =>
    cases hfound with
    | none => rfl
    | some hvalue =>
      cases hvalue with
      | none => rfl
      | some hunder => rw [hunder.eq hname]

/-- Two texts of which neither refers to a secret variable, and which come to the same value, or to
two secrets if the name they are bound to is that of a secret variable. -/
structure ValueTwins (V : Veil) (find? : String → Option String) (name : String)
    (text text' : List Char) : Prop where
  clear : ∀ other ∈ referencesFrom 0 text ++ referencesFrom 0 text', ¬ V.covers other
  under : V.Under name (String.ofList (interpolateFrom find? 0 text))
    (String.ofList (interpolateFrom find? 0 text'))

/-- Bindings of the same names in the same order, which come to values that differ in secrets only.
The environment and the values of the bindings further up are those of the first of the two. -/
inductive BindingsTwins (V : Veil) (environment : Environment) :
    Values → List Binding → List Binding → Prop
  | nil (values : Values) : BindingsTwins V environment values [] []
  | cons {values : Values} {b b' : Binding} {rest rest' : List Binding} (hkey : b.key = b'.key)
      (hvalue : Option.Rel (ValueTwins V (lookUp environment values) (String.ofList b.key)) b.value
        b'.value)
      (hrest : BindingsTwins V environment (interpolate environment values [b]) rest rest') :
    BindingsTwins V environment values (b :: rest) (b' :: rest')

/-- Two environment files that bind the same names in the same order, to values that differ in
secrets only. -/
def TextTwins (V : Veil) (environment : Environment) (text text' : List Char) : Prop :=
  BindingsTwins V environment [] (bindings text) (bindings text')

theorem interpolate_twins (h : Environment.Twins V environment environment')
    {bindings bindings' : List Binding} (hbindings : BindingsTwins V environment values bindings
      bindings') (hvalues : Values.Twins V values values') :
    Values.Twins V (interpolate environment values bindings)
      (interpolate environment' values' bindings') := by
  induction hbindings generalizing values' with
  | nil => exact hvalues
  | @cons values b b' rest rest' hkey hvalue _ ih =>
    obtain ⟨key, value⟩ := b
    obtain ⟨_, value'⟩ := b'
    cases hkey
    refine ih (Table.Related.assign hvalues ?_)
    cases hvalue with
    | none => exact .none
    | @some text text' htwins =>
      -- the second text refers to no secret, so it finds in its own file what it would find in
      -- the first one
      have hsame : interpolateFrom (lookUp environment values) 0 text' =
          interpolateFrom (lookUp environment' values') 0 text' :=
        interpolateFrom_congr fun name hmem =>
          lookUp_eq h hvalues (htwins.clear name (List.mem_append_right _ hmem))
      refine .some ?_
      dsimp only
      rw [← hsame]
      exact htwins.under

theorem values_twins (h : Environment.Twins V environment environment') {text text' : List Char}
    (htext : TextTwins V environment text text') :
    Values.Twins V (EnvFile.values environment text) (EnvFile.values environment' text') :=
  interpolate_twins h htext .nil

/-- The environment files that a resolver with the given path loads from the two trees, if loading
is not switched off, bind the same names to values that differ in secrets only. -/
def LoadsAlike (V : Veil) (environment : Environment) (files files' : Files)
    (given : Option String) : Prop :=
  isDisabled environment = false → ∀ path text text', choose files given = .ok (some path) →
    contentAt files path = .ok text → contentAt files' path = .ok text' →
      TextTwins V environment text text'

/-- Two machines that differ in secrets only, with the two given trees. -/
def Loading (V : Veil) (files files' : Files) (machine machine' : Machine) : Prop :=
  machine.Twins V machine' ∧ machine.files = files ∧ machine'.files = files'

variable {files files' : Files}

theorem choose_eq (h : files.Twins files') (given : Option String) :
    choose files given = choose files' given := by
  have hfile : files.isFile = files'.isFile := funext h.isFile_eq
  have hnearest : nearest? files = nearest? files' := by
    simp only [nearest?, Files.currentPlace?, h.workingDirectory, hfile]
  simp only [choose, hnearest]

theorem contentAt_corresponds (h : files.Twins files') {path : String}
    (htexts : ∀ text text', contentAt files path = .ok text → contentAt files' path = .ok text' →
      TextTwins V environment text text') :
    Corresponds (TextTwins V environment) (contentAt files path) (contentAt files' path) := by
  have hsame : Corresponds (fun _ _ => True) (contentAt files path) (contentAt files' path) := by
    have hread := h.read path
    unfold contentAt
    rw [h.isFile_eq]
    by_cases hnul : holdsNul path = true
    · rw [if_pos hnul, if_pos hnul]
      exact .error _
    · rw [if_neg hnul, if_neg hnul]
      by_cases hfile : files'.isFile path = false
      · rw [if_pos hfile, if_pos hfile]
        exact .ok trivial
      · rw [if_neg hfile, if_neg hfile]
        generalize files.read path = found, files'.read path = found' at hread
        cases hread with
        | error reason => exact .error _
        | ok hcontent =>
          rcases hcontent with rfl | ⟨s, t, hs, ht, -⟩
          · exact (Corresponds.of_eq rfl).mono fun _ _ _ => trivial
          · simp only [hs, ht]
            split <;> split <;> exact .ok trivial
  generalize contentAt files path = found, contentAt files' path = found' at hsame htexts
  cases hsame with
  | ok _ => exact .ok (htexts _ _ rfl rfl)
  | error fault => exact .error fault

theorem assignMissing_inStep (hvalues : Values.Twins V values values') :
    Act.InStep (Loading V files files') Eq (assignMissing values) (assignMissing values') := by
  induction hvalues with
  | nil => exact .pure rfl
  | @cons entry entry' rest rest' hentry _ ih =>
    obtain ⟨name, value?⟩ := entry
    obtain ⟨_, value?'⟩ := entry'
    obtain ⟨rfl, hvalue⟩ := hentry
    cases hvalue with
    | none => exact ih
    | @some value value' hunder =>
      refine .get_bind fun machine machine' hloading => ?_
      have hfound := Table.Related.find? hloading.1.environment name
      have hfree : (machine.environment.find? name).isNone =
          (machine'.environment.find? name).isNone := by
        generalize machine.environment.find? name = found,
          machine'.environment.find? name = found' at hfound ⊢
        cases hfound <;> rfl
      dsimp only
      rw [hfree, hunder.veiled.bindingFault?_eq name]
      refine .ite .rfl ?_ ih
      cases bindingFault? name value' with
      | some fault => exact (Act.InStep.fail _ (S := Eq)).bind fun _ _ _ => ih
      | none =>
        refine (Act.InStep.modify ?_).bind fun _ _ _ => ih
        rintro m m' ⟨htwins, hfiles, hfiles'⟩
        exact ⟨⟨htwins.environment.assign hunder, htwins.files, htwins.homes⟩, hfiles, hfiles'⟩

theorem loadAt_inStep {machine machine' : Machine} (h : Loading V files files' machine machine')
    {path : Option String} (hload : isDisabled machine.environment = false →
      ∀ found text text', path = some found → contentAt files found = .ok text →
        contentAt files' found = .ok text' → TextTwins V machine.environment text text')
    (level : Level) :
    Act.InStepAt (Loading V files files') Eq (loadAt path) (loadAt path) level machine
      machine' := by
  obtain ⟨htwins, rfl, rfl⟩ := h
  refine .get_bind ?_
  rw [← htwins.environment.isDisabled_eq]
  refine (?_ : Act.InStep (Loading V machine.files machine'.files) Eq _ _) level _ _
    ⟨htwins, rfl, rfl⟩
  cases hswitch : isDisabled machine.environment with
  | true => exact .pure rfl
  | false =>
    cases path with
    | none => exact .pure rfl
    | some path =>
      refine (Act.InStep.ofExcept (contentAt_corresponds htwins.files ?_)).bind fun _ _ htext =>
        assignMissing_inStep (values_twins htwins.environment htext)
      exact fun text text' => hload hswitch path text text' rfl

theorem load_inStep {machine machine' : Machine} (h : Loading V files files' machine machine')
    {given : Option String} (hload : LoadsAlike V machine.environment files files' given)
    (level : Level) :
    Act.InStepAt (Loading V files files') Eq (load given) (load given) level machine
      machine' := by
  obtain ⟨htwins, rfl, rfl⟩ := h
  rw [Act.inStepAt_iff, load_run, load_run, ← choose_eq htwins.files]
  cases hchoose : choose machine.files given with
  | error fault => exact ⟨.error fault, ⟨htwins, rfl, rfl⟩, rfl⟩
  | ok path =>
    refine Act.inStepAt_iff.mp (loadAt_inStep ⟨htwins, rfl, rfl⟩ ?_ level)
    rintro hswitch found text text' rfl
    exact hload hswitch found text text' hchoose

end EnvFile

namespace Resolver

variable {files files' : Files} {machine machine' : Machine}

theorem afterLoading_inStep (result : Except Fault Unit) :
    Act.InStep (EnvFile.Loading V files files') Eq (afterLoading result) (afterLoading result) := by
  cases result with
  | ok _ => exact .log _ _ _
  | error fault => exact .ite .rfl (.log _ _ _) (.fail _)

theorem ensureLoaded_inStep (h : EnvFile.Loading V files files' machine machine') (r : Resolver)
    (hload : r.loaded = false → EnvFile.LoadsAlike V machine.environment files files' r.path)
    (level : Level) :
    Act.InStepAt (EnvFile.Loading V files files') Eq r.ensureLoaded r.ensureLoaded level machine
      machine' := by
  unfold Resolver.ensureLoaded
  cases hr : r.loaded with
  | true => exact Act.InStep.pure rfl level _ _ h
  | false =>
    refine (EnvFile.load_inStep h (hload hr) level).attempt.bind_inStep fun result result' h' => ?_
    rw [h'.eq]
    exact (afterLoading_inStep result').bind fun _ _ _ => .pure rfl

/-- A resolver that is made on two machines loads the same variables. -/
theorem create_inStep (h : EnvFile.Loading V files files' machine machine') {path : Option String}
    (hload : EnvFile.LoadsAlike V machine.environment files files' path) (level : Level) :
    Act.InStepAt (EnvFile.Loading V files files') Eq (create path true) (create path true) level
      machine machine' :=
  ensureLoaded_inStep h ⟨path, true, false⟩ (fun _ => hload) level

end Resolver
end AuthRelay
