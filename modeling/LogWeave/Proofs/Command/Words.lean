import LogWeave.Command.Arguments
import Mathlib.Data.List.TakeWhile

/-! How a setting is written in a call.

A setting and its value are one argument, with an equals sign between them, or two
(`Spelt`); either way they are read alike (`Level.read_spelt`), so a login may be called for with
any token and any host (`Invocation.read_login`). -/
namespace LogWeave.Command

/-- A setting with its value, as one argument or as two; by itself a value must be a word. -/
inductive Spelt (name value : String) : List String → Prop
  | joined : Spelt name value ["--" ++ name ++ "=" ++ value]
  | apart (h : Argument.of value = .word) : Spelt name value ["--" ++ name, value]

/-- A name of an option. -/
structure IsOption (name : String) : Prop where
  ne_nil : name.toList ≠ []
  equals : '=' ∉ name.toList

theorem Argument.of_long {name : String} (h : IsOption name) :
    Argument.of ("--" ++ name) = .long name none := by
  obtain ⟨c, cs, hname⟩ := List.exists_cons_of_ne_nil h.ne_nil
  have hdrop : (c :: cs).dropWhile (· != '=') = [] := by
    refine List.dropWhile_eq_nil_iff.2 fun d hd => ?_
    simpa using fun heq : d = '=' => h.equals (hname ▸ heq ▸ hd)
  have hlist : ("--" ++ name).toList = '-' :: '-' :: c :: cs := by
    rw [String.toList_append, hname]
    rfl
  unfold Argument.of
  rw [hlist]
  show Argument.ofLong (c :: cs) = _
  unfold Argument.ofLong
  rw [hdrop, ← hname, String.ofList_toList]

theorem Argument.of_joined {name : String} (h : IsOption name) (value : String) :
    Argument.of ("--" ++ name ++ "=" ++ value) = .long name (some value) := by
  obtain ⟨c, cs, hname⟩ := List.exists_cons_of_ne_nil h.ne_nil
  have hall : ∀ d ∈ name.toList, (d != '=') = true := fun d hd => by
    simpa using fun heq : d = '=' => h.equals (heq ▸ hd)
  have hlist : ("--" ++ name ++ "=" ++ value).toList =
      '-' :: '-' :: c :: (cs ++ '=' :: value.toList) := by
    simp only [String.toList_append, hname]
    simp
  have hsplit : c :: (cs ++ '=' :: value.toList) = name.toList ++ '=' :: value.toList := by
    rw [hname, List.cons_append]
  unfold Argument.of
  rw [hlist]
  show Argument.ofLong (c :: _) = _
  unfold Argument.ofLong
  rw [hsplit, List.dropWhile_append_of_pos hall, List.takeWhile_append_of_pos hall]
  simp

namespace Level

/-- A setting that has not been given yet is taken. -/
theorem read_spelt {l : Level} {g : Given} {name value : String} {s : Setting}
    {arguments : List String} (h : Spelt name value arguments) (hname : IsOption name)
    (hlookup : l.settings.lookup name = some s) (hg : (g.settings.map Prod.fst).Nodup)
    (hs : s ∉ g.settings.map Prod.fst) (rest : List String) :
    l.read g (arguments ++ rest) = l.read (g.set s value) rest := by
  have hsettled : g.settled = .ok g := if_pos hg
  have hset : (g.set s value).settled = .ok (g.set s value) :=
    if_pos (List.nodup_cons.2 ⟨hs, hg⟩)
  cases h with
  | joined =>
    rw [List.singleton_append, read, Argument.of_joined hname]
    dsimp only
    rw [hsettled]
    refine (pure_bind g _).trans ?_
    rw [hlookup]
    dsimp only
    rw [hset]
    exact pure_bind _ _
  | apart hvalue =>
    show l.read g (("--" ++ name) :: value :: rest) = _
    rw [read, Argument.of_long hname]
    dsimp only
    rw [hsettled]
    refine (pure_bind g _).trans ?_
    rw [hlookup]
    exact if_pos hvalue

end Level

/-- The words of a login. -/
theorem Invocation.read_login {token : String} {host : Option String}
    {arguments more : List String} (htoken : Spelt "token" token arguments)
    (hhost : match host with | none => more = [] | some host => Spelt "host" host more) :
    Invocation.read ("login" :: (arguments ++ more)) = .ok ⟨.login token, host⟩ := by
  have hcommand : Level.top.read .none ("login" :: (arguments ++ more)) =
      .ok (.none, "login" :: (arguments ++ more)) := by
    rw [Level.read, show Argument.of "login" = .word by decide]
    rfl
  have hfirst := Level.read_spelt (l := .login) (g := .none) htoken ⟨by decide, by decide⟩ rfl
    List.nodup_nil List.not_mem_nil more
  rw [Invocation.read, hcommand]
  show (readOrder "login" (arguments ++ more) >>= fun r => _) = _
  rw [readOrder, hfirst]
  cases host with
  | none =>
    obtain rfl : more = [] := hhost
    rfl
  | some host =>
    have hsecond := Level.read_spelt (l := .login) (g := Given.none.set .token token) hhost
      ⟨by decide, by decide⟩ rfl (by show [Setting.token].Nodup; decide)
      (by show Setting.host ∉ [Setting.token]; decide) []
    rw [List.append_nil] at hsecond
    rw [hsecond]
    rfl

end LogWeave.Command
