import LogWeave.Command.Outcome
import LogWeave.Proofs.Command.Words
import LogWeave.Proofs.Files.LastWrite
import Mathlib.Data.List.TakeWhile

/-! Logging in and out, over many calls.

A call leaves the files alone, or saves or removes the user's credentials (`Surroundings.call`
case by case), so what is kept of them follows the calls that succeeded (`Remembers.call`).
Credentials are read back as they were kept (`Credentials.load_of_has`), and whoever is kept is
logged in (`isLoggedIn_trim`). -/
namespace LogWeave

open Files

/-! ### Blanks -/

namespace Text

theorem mem_skipBlanks {c : Char} {cs : List Char} (h : c ∈ cs) (hc : isBlank c = false) :
    c ∈ skipBlanks cs := by
  induction cs with
  | nil => cases h
  | cons d cs ih =>
    by_cases hd : isBlank d = true
    · rw [skipBlanks, List.dropWhile_cons_of_pos hd]
      rcases List.mem_cons.1 h with rfl | h
      · rw [hc] at hd
        cases hd
      · exact ih h
    · rw [skipBlanks, List.dropWhile_cons_of_neg hd]
      exact h

/-- Only blanks are trimmed. -/
theorem mem_trimChars {c : Char} {cs : List Char} (h : c ∈ cs) (hc : isBlank c = false) :
    c ∈ trimChars cs := by
  have hfront : c ∈ (skipBlanks cs).reverse := List.mem_reverse.2 (mem_skipBlanks h hc)
  exact List.mem_reverse.2 (mem_skipBlanks hfront hc)

theorem trimChars_of_blank {cs : List Char} (h : ∀ c ∈ cs, isBlank c = true) :
    trimChars cs = [] := by
  have hskip : skipBlanks cs = [] := List.dropWhile_eq_nil_iff.2 h
  rw [trimChars, hskip]
  rfl

/-- What is left of a text that is not blank is not blank. -/
theorem isEmpty_trim_trim (s : String) : (trim (trim s)).isEmpty = (trim s).isEmpty := by
  have hchars : trimChars (trimChars s.toList) = [] ↔ trimChars s.toList = [] := by
    constructor
    · intro h
      refine trimChars_of_blank fun c hc => ?_
      by_contra hsolid
      have hsolid : isBlank c = false := Bool.eq_false_iff.2 hsolid
      have hmem := mem_trimChars (mem_trimChars hc hsolid) hsolid
      rw [h] at hmem
      cases hmem
    · intro h
      rw [h]
      rfl
  rw [Bool.eq_iff_iff]
  simpa [trim, String.isEmpty_iff, String.ofList_eq_empty_iff] using hchars

end Text

/-! ### Credentials -/

namespace Credentials

open Json.Reader in
theorem takes_document (c : Credentials) :
    Takes record.reader (Json.Printer.value Json.Printer.spread 0 c.document) c := by
  have htoken : ∀ x : Credentials, Takes (do pure { x with token := ← Json.Scalar.anyText })
      (Json.Printer.text c.token) { x with token := c.token } :=
    fun x => (Takes.text "a string" c.token).bind_pure _
  have hhost : ∀ (host : String) (x : Credentials),
      Takes (do pure { x with host := ← Json.Scalar.optional Json.Scalar.anyText })
        (Json.Printer.text host) { x with host := some host } :=
    fun host x => ((Takes.text "a string" host).optional rfl (by decide)).bind_pure _
  obtain ⟨token, host⟩ := c
  cases host with
  | none =>
    refine Json.Record.takes_reader
      [("authToken", .text token, fun c : Credentials => { c with token })]
      Json.Printer.spread_plain (by simp) ?_ ?_
    · simp only [List.forall_mem_singleton]
      exact ⟨_, rfl, htoken⟩
    · simp [record]
  | some host =>
    refine Json.Record.takes_reader [
      ("authToken", .text token, fun c : Credentials => { c with token }),
      ("sandboxHost", .text host, fun c : Credentials => { c with host := host })]
      Json.Printer.spread_plain (by simp) ?_ ?_
    · simp only [List.forall_mem_cons, List.not_mem_nil, false_imp_iff, implies_true, and_true]
      exact ⟨⟨_, rfl, htoken⟩, ⟨_, rfl, hhost host⟩⟩
    · simp [record]

theorem isPlain_file : Folder.IsPlain file :=
  ⟨by decide, by decide, by decide, by decide⟩

/-- **Credentials are read back as they were kept**; without any they are nobody's. -/
theorem load_of_has {f : Folder} {t : Tree} {kept : Option Credentials}
    (h : f.Has file (kept.map document) t) : load f t = .ok (kept.getD none) := by
  unfold load
  cases kept with
  | none =>
    rw [(Folder.load_of_absent (h.holds_none isPlain_file) record.reader).2.1]
    rfl
  | some c =>
    rw [(h.load_some isPlain_file c.takes_document).2]
    rfl

theorem isLoggedIn_trim (token : String) (host : Option String) :
    isLoggedIn ⟨Text.trim token, host⟩ = !(Text.trim token).isEmpty := by
  rw [isLoggedIn, Text.isEmpty_trim_trim]

end Credentials

/-! ### Calls -/

namespace Command.Surroundings

variable {ε : Type} (s : Surroundings ε)

/-- What there is to remember after a call: of a login that succeeded who it was, and after a
logout nobody. -/
def heed (arguments : List String) (o : Outcome) (kept : Option Credentials) :
    Option Credentials :=
  if o.code = 0 then
    match Invocation.read arguments with
    | .ok ⟨.login token, host⟩ => some ⟨Text.trim token, host⟩
    | .ok ⟨.logout, _⟩ => none
    | _ => kept
  else kept

/-- Calls one after the other, with what there is to remember after them. -/
def callAll : List (List String) → Option Credentials × Tree × ε → Option Credentials × Tree × ε
  | [], r => r
  | arguments :: rest, (kept, t, e) =>
    let (o, t, e) := s.call arguments t e
    callAll rest (heed arguments o kept, t, e)

/-- What there is to remember is kept in the user's folder, and is somebody's. -/
structure Remembers (kept : Option Credentials) (t : Tree) : Prop where
  has : s.user.Has Credentials.file (kept.map Credentials.document) t
  loggedIn : ∀ c, kept = some c → c.isLoggedIn = true

variable {s} {kept : Option Credentials} {t : Tree}

theorem carryOut_login (token : String) (host : Option String) (t : Tree) (e : ε) :
    s.carryOut ⟨.login token, host⟩ t e =
      (.ofPart ((Session.login s.user token host t).1.map fun _ => "Logged in.\n"),
        (Session.login s.user token host t).2, e) := by
  unfold carryOut
  dsimp only

theorem carryOut_logout (host : Option String) (t : Tree) (e : ε) :
    s.carryOut ⟨.logout, host⟩ t e =
      (.ofPart ((Session.logout s.user t).1.map fun _ => "Logged out.\n"),
        (Session.logout s.user t).2, e) := by
  unfold carryOut
  dsimp only

/-- A blank token is refused, and all stays as it is. -/
theorem carryOut_login_of_blank {token : String} (h : (Text.trim token).isEmpty = true)
    (host : Option String) (t : Tree) (e : ε) : s.carryOut ⟨.login token, host⟩ t e =
      (.ofPart (.error .blankToken), t, e) := by
  have hlogin : Session.login s.user token host t = (.error .blankToken, t) := if_pos h
  rw [carryOut_login, hlogin]
  rfl

namespace Remembers

/-- Any other token is kept without the blanks around it. -/
theorem login (hadmits : s.user.Admits Credentials.file) (h : s.Remembers kept t) {token : String}
    (htoken : (Text.trim token).isEmpty = false) (host : Option String) (e : ε) :
    ∃ t', s.carryOut ⟨.login token, host⟩ t e = (.done "Logged in.\n", t', e) ∧
      s.Remembers (some ⟨Text.trim token, host⟩) t' := by
  have hkeep := h.has.use (.save Credentials.file
    (Credentials.document ⟨Text.trim token, host⟩)) Credentials.isPlain_file
  rw [Folder.Use.keep, if_pos ⟨rfl, hadmits⟩] at hkeep
  have hsaved : (Credentials.save s.user ⟨Text.trim token, host⟩ t).1 = .ok () :=
    h.has.save_ok Credentials.isPlain_file hadmits _
  have hlogin : Session.login s.user token host t =
      (.ok (), (Credentials.save s.user ⟨Text.trim token, host⟩ t).2) := by
    unfold Session.login
    dsimp only
    rw [htoken, hsaved]
    rfl
  refine ⟨(Credentials.save s.user ⟨Text.trim token, host⟩ t).2, ?_, hkeep, ?_⟩
  · rw [carryOut_login, hlogin]
    rfl
  · rintro c ⟨rfl⟩
    rw [Credentials.isLoggedIn_trim, htoken]
    rfl

/-- A logout succeeds, also if nobody was logged in. -/
theorem logout (h : s.Remembers kept t) (host : Option String) (e : ε) :
    ∃ t', s.carryOut ⟨.logout, host⟩ t e = (.done "Logged out.\n", t', e) ∧
      s.Remembers none t' := by
  obtain ⟨t', hremove⟩ := h.has.remove_ok Credentials.isPlain_file
  have hkeep := h.has.use (.remove Credentials.file) Credentials.isPlain_file
  rw [Folder.Use.keep, if_pos rfl, Folder.Use.after, hremove] at hkeep
  have hlogout : Session.logout s.user t = (.ok (), t') := by
    unfold Session.logout Credentials.clear
    rw [hremove]
  refine ⟨t', ?_, hkeep, fun _ h => by cases h⟩
  rw [carryOut_logout, hlogout]
  rfl

end Remembers

/-- An order that is not carried out for nobody. -/
def IsGuarded : Order → Prop
  | .logs .. | .table => True
  | .login _ | .logout => False

/-- Services are shown without a change to the files. -/
theorem carryOut_tree {i : Invocation} (hi : IsGuarded i.order) (t : Tree) (e : ε) :
    (s.carryOut i t e).2.1 = t := by
  obtain ⟨order, host⟩ := i
  cases order with
  | login token => exact hi.elim
  | logout => exact hi.elim
  | table => rfl
  | logs services follow previous =>
    unfold carryOut
    dsimp only
    split <;> rfl

theorem call_of_read {arguments : List String} {i : Invocation}
    (h : Invocation.read arguments = .ok i) (t : Tree) (e : ε) :
    s.call arguments t e = s.carryOut i t e := by
  unfold call
  rw [h]

/-- Only logins and logouts are remembered. -/
theorem heed_of_read {arguments : List String} {i : Invocation}
    (h : Invocation.read arguments = .ok i) (hi : IsGuarded i.order) (o : Outcome)
    (kept : Option Credentials) : heed arguments o kept = kept := by
  obtain ⟨order, host⟩ := i
  unfold heed
  rw [h]
  cases order with
  | login token => exact hi.elim
  | logout => exact hi.elim
  | table => exact ite_self kept
  | logs services follow previous => exact ite_self kept

/-- **One call of the program.** -/
theorem Remembers.call (hadmits : s.user.Admits Credentials.file) (h : s.Remembers kept t)
    (arguments : List String) (e : ε) :
    s.Remembers (heed arguments (s.call arguments t e).1 kept) (s.call arguments t e).2.1 := by
  cases hread : Invocation.read arguments with
  | error refrain =>
    have hcall : s.call arguments t e = (.ofRefrain refrain, t, e) := by
      unfold Surroundings.call
      rw [hread]
    have hsame : heed arguments (.ofRefrain refrain) kept = kept := by
      unfold heed
      rw [hread]
      exact ite_self kept
    rw [hcall]
    rwa [hsame]
  | ok i =>
    rw [call_of_read hread]
    by_cases hi : IsGuarded i.order
    · rwa [heed_of_read hread hi, carryOut_tree hi]
    obtain ⟨order, host⟩ := i
    cases order with
    | login token =>
      cases htoken : (Text.trim token).isEmpty with
      | true =>
        rw [carryOut_login_of_blank htoken]
        exact h
      | false =>
        obtain ⟨t', hdone, hkeep⟩ := h.login hadmits htoken host e
        have hheed : heed arguments (.done "Logged in.\n") kept =
            some ⟨Text.trim token, host⟩ := by
          unfold heed
          rw [hread]
          rfl
        rwa [hdone, hheed]
    | logout =>
      obtain ⟨t', hdone, hkeep⟩ := h.logout host e
      have hheed : heed arguments (.done "Logged out.\n") kept = none := by
        unfold heed
        rw [hread]
        rfl
      rwa [hdone, hheed]
    | table | logs => exact absurd trivial hi

/-- Any number of calls. -/
theorem Remembers.callAll (hadmits : s.user.Admits Credentials.file) (h : s.Remembers kept t)
    (calls : List (List String)) (e : ε) :
    s.Remembers (s.callAll calls (kept, t, e)).1 (s.callAll calls (kept, t, e)).2.1 := by
  induction calls generalizing kept t e with
  | nil => exact h
  | cons arguments rest ih => exact ih (h.call hadmits arguments e) _

/-! ### Who is let through -/

/-- Nobody is let through, whatever the settings say. -/
theorem identify_of_stranger (hload : Credentials.load s.user t = .ok Credentials.none) :
    s.identify t = .error (.plain .notLoggedIn) := by
  unfold identify
  rw [hload]
  rfl

/-- Whoever is logged in goes on to the settings. -/
theorem identify_of_user {c : Credentials} (hload : Credentials.load s.user t = .ok c)
    (hc : c.isLoggedIn = true) : s.identify t =
      (Task.loadSettings.attempt (Settings.load (some s.user) (some s.project) t)).map
        fun settings => (c, settings) := by
  have hread : Task.readCredentials.attempt (Credentials.load s.user t) = .ok c := by
    rw [hload]
    rfl
  have hrequire : plainly c.requireLogin = .ok () := congrArg plainly (if_pos hc)
  unfold identify
  rw [hread, Tree.ok_bind, hrequire, Tree.ok_bind]
  cases Task.loadSettings.attempt (Settings.load (some s.user) (some s.project) t) <;> rfl

/-- The engine is not asked. -/
theorem carryOut_of_stranger {i : Invocation} (hi : IsGuarded i.order)
    (hload : Credentials.load s.user t = .ok Credentials.none) (e : ε) :
    s.carryOut i t e = (.ofPart (.error (.plain .notLoggedIn)), t, e) := by
  have hidentify := identify_of_stranger hload
  obtain ⟨order, host⟩ := i
  cases order with
  | login token => exact hi.elim
  | logout => exact hi.elim
  | table =>
    have htable : s.table host t e = (.error (.plain .notLoggedIn), e) := by
      unfold table
      rw [hidentify]
      rfl
    unfold carryOut
    dsimp only
    rw [htable]
  | logs services follow previous =>
    have hlogs : s.logs services follow previous host t e =
        (.error (.plain .notLoggedIn), e) := by
      unfold logs
      rw [hidentify]
      rfl
    unfold carryOut
    dsimp only
    rw [hlogs]
    rfl

/-- **What is remembered of any calls**: who logged in last, unless a logout came after it. -/
theorem remembers_login (s : Surroundings ε) (t : Tree) (e : ε) (husable : s.user.Usable t)
    (hadmits : s.user.Admits Credentials.file)
    (hfree : (s.user.prepare t).2.holds (s.user.path Credentials.file) = false)
    (calls : List (List String)) :
    ∃ kept t' e', s.callAll calls (none, t, e) = (kept, t', e') ∧
      Credentials.load s.user t' = .ok (kept.getD .none) ∧
      ((kept.getD .none).requireLogin = .ok () ↔ kept.isSome) ∧
      (∀ token host arguments more, Spelt "token" token arguments →
        (match host with | none => more = [] | some host => Spelt "host" host more) →
        if (Text.trim token).isEmpty then
          s.call ("login" :: (arguments ++ more)) t' e' =
            (⟨"", "The token must not be empty\n", 1⟩, t', e')
        else
          ∃ t'', s.call ("login" :: (arguments ++ more)) t' e' = (.done "Logged in.\n", t'', e') ∧
            Credentials.load s.user t'' = .ok ⟨Text.trim token, host⟩) ∧
      (∃ t'', s.call ["logout"] t' e' = (.done "Logged out.\n", t'', e') ∧
        Credentials.load s.user t'' = .ok .none) ∧
      (∀ arguments i, Invocation.read arguments = .ok i → IsGuarded i.order →
        (kept = none → s.call arguments t' e' =
          (⟨"", Failure.notLoggedIn.message ++ "\n", 1⟩, t', e')) ∧
        (∀ c, kept = some c → s.identify t' =
          (Task.loadSettings.attempt (Settings.load (some s.user) (some s.project) t')).map
            fun settings => (c, settings))) := by
  have hstart : s.Remembers none t :=
    ⟨Folder.has_of_usable Credentials.isPlain_file husable hfree, nofun⟩
  obtain ⟨kept, t', e', hafter⟩ : ∃ kept t' e', s.callAll calls (none, t, e) = (kept, t', e') :=
    ⟨_, _, _, rfl⟩
  have h : s.Remembers kept t' := by
    have hall := hstart.callAll hadmits calls e
    rwa [hafter] at hall
  have hload := Credentials.load_of_has h.has
  refine ⟨kept, t', e', hafter, hload, ?_, ?_, ?_, ?_⟩
  · cases kept with
    | none => exact ⟨nofun, nofun⟩
    | some c => exact ⟨fun _ => rfl, fun _ => if_pos (h.loggedIn c rfl)⟩
  · intro token host arguments more htoken hhost
    rw [call_of_read (Invocation.read_login htoken hhost)]
    split
    · exact carryOut_login_of_blank ‹_› host t' e'
    · obtain ⟨t'', hdone, hkeep⟩ := h.login hadmits (Bool.eq_false_iff.2 ‹_›) host e'
      exact ⟨t'', hdone, Credentials.load_of_has hkeep.has⟩
  · obtain ⟨t'', hdone, hkeep⟩ := h.logout none e'
    have hread : Invocation.read ["logout"] = .ok ⟨.logout, none⟩ := by decide
    exact ⟨t'', (call_of_read hread t' e').trans hdone, Credentials.load_of_has hkeep.has⟩
  · intro arguments i hread hi
    refine ⟨?_, ?_⟩
    · rintro rfl
      rw [call_of_read hread]
      exact carryOut_of_stranger hi hload e'
    · rintro c rfl
      exact identify_of_user hload (h.loggedIn c rfl)

theorem remembers_login_twice :
    let s : Surroundings Unit :=
      ⟨⟨⟨"/home/skiff"⟩⟩, ⟨⟨"/work/.skiff"⟩⟩, fun _ => .error (noSocket "/var/run/docker.sock"),
        fun _ => ⟨0, 0, by decide⟩, none⟩
    let calls := [["login", "--token", " a ", "--host", "h"], ["login", "--token", " "]]
    ∃ t', s.callAll calls (none, .empty, ()) = (some ⟨"a", some "h"⟩, t', ()) ∧
      Credentials.load s.user t' = .ok ⟨"a", some "h"⟩ := by
  intro s calls
  have husable : s.user.Usable .empty := by
    unfold Folder.Usable
    decide
  obtain ⟨kept, t', e', hafter, hload, -⟩ :=
    remembers_login s .empty () husable (by decide) (by decide) calls
  have hkept : (s.callAll calls (none, .empty, ())).1 = some ⟨"a", some "h"⟩ := by decide +kernel
  rw [hafter] at hkept
  obtain rfl : kept = some ⟨"a", some "h"⟩ := hkept
  exact ⟨t', hafter, hload⟩

end Command.Surroundings

end LogWeave
