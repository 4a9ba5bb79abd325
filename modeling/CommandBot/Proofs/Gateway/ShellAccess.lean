/-
**Who gets a shell on the host.**

A command line reaches the host only on behalf of a message that says so, and only right after two
lookups made for that message: the roles that its author has in the server that it was sent in, and
the permissions that the server gives to its roles.  One of the author's roles has to be known to
the server and to make an administrator.  A lookup that fails ends the handling with the report of
the failure.

Main definitions:

* `CommandBot.GatewayRequest.hostTopic?` — the questions about the host and about roles;
* `CommandBot.Event.AdminLookup` — what finding out about the author's roles can come to;
* `CommandBot.Event.MayLaunch` — what has to come before a command line;
* `CommandBot.Event.KeepsHost` — the exchanges about an event that let nobody else in.

Main results:

* `CommandBot.Event.runs_authorIsAdmin`, `CommandBot.Event.runs_runAsAdmin` — the exchanges of the
  lookup, and of the shell command;
* `CommandBot.Instance.keepsHost_of_runs` — **no event lets anybody else in**;
* `CommandBot.Instance.shell_access` — nor does any sequence of events.
-/

import CommandBot.Proofs.Gateway.Handling
import CommandBot.Proofs.Routing
import CommandBot.Proofs.Text.Blank
import CommandBot.Rehearsal.HostFiles
import CommandBot.Shell.Launch

set_option relaxedAutoImplicit false
set_option autoImplicit false

namespace CommandBot

open Program

/-! ### Questions about the host -/

/-- What a question about the host is about. -/
inductive HostTopic where
  /-- A command line. -/
  | shell
  /-- The roles of a member. -/
  | member
  /-- The roles of a server. -/
  | roles
deriving DecidableEq, Repr

/-- The questions about the host: command lines, and the lookups that they depend on. -/
def GatewayRequest.hostTopic? : GatewayRequest → Option HostTopic
  | .service (.shell _) => some .shell
  | .member _ _ => some .member
  | .roles _ => some .roles
  | _ => none

/-- No question about the host is among the exchanges. -/
def OffHost (exchanges : List Exchange) : Prop := ∀ x ∈ exchanges, x.1.hostTopic? = none

theorem OffHost.nil : OffHost [] := by simp [OffHost]

theorem OffHost.append {first second : List Exchange} (h : OffHost first) (h' : OffHost second) :
    OffHost (first ++ second) := by
  intro x hx
  rcases List.mem_append.1 hx with hx | hx
  · exact h x hx
  · exact h' x hx

/-- A program that cannot ask about the host does not. -/
theorem OffHost.of_runs {α : Type} {p : GatewayTask α} {exchanges : List Exchange} {result : α}
    (hp : p.Asks fun q => q.hostTopic? = none) (h : Runs p exchanges result) : OffHost exchanges :=
  hp.of_runs h

/-- No question about the given topic is among the exchanges. -/
def Lacks (topic : HostTopic) (exchanges : List Exchange) : Prop :=
  ∀ x ∈ exchanges, x.1.hostTopic? ≠ some topic

section Lacks

variable {topic : HostTopic} {x y : Exchange} {before after front back : List Exchange}

@[simp] theorem lacks_nil : Lacks topic [] := by simp [Lacks]

@[simp] theorem lacks_cons : Lacks topic (x :: after) ↔
    x.1.hostTopic? ≠ some topic ∧ Lacks topic after := by
  simp [Lacks]

@[simp] theorem lacks_append : Lacks topic (before ++ after) ↔
    Lacks topic before ∧ Lacks topic after := by
  simp [Lacks, or_imp, forall_and]

theorem OffHost.lacks (h : OffHost before) : Lacks topic before := by
  intro x hx
  rw [h x hx]
  exact nofun

/-- A question about a topic is not among exchanges without it. -/
theorem Lacks.absurd {p : Prop} (h : Lacks topic (before ++ x :: after))
    (hx : x.1.hostTopic? = some topic) : p :=
  (h x (by simp) hx).elim

/-- The only question about a topic stands where it stands. -/
theorem eq_of_lacks (h : before ++ x :: after = front ++ y :: back)
    (hx : x.1.hostTopic? = some topic) (hfront : Lacks topic front) (hback : Lacks topic back) :
    before = front ∧ x = y ∧ after = back := by
  rcases List.append_eq_append_iff.1 h with ⟨between, rfl, hrest⟩ | ⟨between, rfl, hrest⟩
  · cases between with
    | nil =>
        obtain ⟨rfl, rfl⟩ := List.cons.inj hrest
        exact ⟨(List.append_nil before).symm, rfl, rfl⟩
    | cons z between =>
        obtain ⟨rfl, -⟩ := List.cons.inj hrest
        exact hfront.absurd hx
  · cases between with
    | nil =>
        obtain ⟨rfl, rfl⟩ := List.cons.inj hrest
        exact ⟨List.append_nil front, rfl, rfl⟩
    | cons z between =>
        obtain ⟨-, rfl⟩ := List.cons.inj hrest
        exact hback.absurd hx

end Lacks

/-- The questions of a command that are not about the host. -/
def Request.IsOffHost : Request → Prop
  | .service (.shell _) => False
  | .authorIsAdmin => False
  | _ => True

/-- Put to the chat service, they are not about the host either. -/
theorem Event.requestFor_asks (e : Event) {r : Request} (hr : r.IsOffHost) :
    (e.requestFor r).Asks fun q => q.hostTopic? = none := by
  match r, hr with
  | .service (.store _), _ => exact .ask rfl fun _ => .done _
  | .service (.search _), _ => exact .ask rfl fun _ => .done _
  | .service (.readFile _), _ => exact .ask rfl fun _ => .done _
  | .authorVoice, _ =>
      simp only [requestFor, authorVoice]
      split
      · exact .done _
      · exact .ask rfl fun _ => .done _

/-- No command but the shell command asks about the host. -/
theorem Command.execute_isOffHost {command : Command} (h : command.action ≠ .shell)
    (args : List String) (ctx : Context) : (command.execute args ctx).Asks Request.IsOffHost := by
  refine (command.execute_asks args ctx).mono fun q hq => ?_
  match q, hq with
  | .service (.store _), _ => trivial
  | .service (.search _), _ => trivial
  | .service (.shell _), hshell => exact h hshell
  | .service (.readFile _), _ => trivial
  | .authorIsAdmin, hshell => exact h hshell
  | .authorVoice, _ => trivial

/-! ### Looking up the author -/

namespace Event

/-- A lookup of the author's roles that succeeds. -/
def memberFound (e : Event) (guild : UInt64) (roles : List UInt64) : Exchange :=
  ⟨.member guild e.author.id, .ok roles⟩

/-- A lookup of the server's roles that succeeds. -/
def rolesFound (guild : UInt64) (table : RoleTable) : Exchange := ⟨.roles guild, .ok table⟩

/-- A lookup of somebody's roles that fails. -/
def memberFailed (guild user : UInt64) (reason : String) : Exchange :=
  ⟨.member guild user, .error reason⟩

/-- A lookup of a server's roles that fails. -/
def rolesFailed (guild : UInt64) (reason : String) : Exchange := ⟨.roles guild, .error reason⟩

/-- **What finding out about the author's roles can come to**, with the exchanges that it takes. -/
inductive AdminLookup (e : Event) : List Exchange → Except CommandError Bool → Prop where
  /-- Nobody administers a direct message. -/
  | direct (h : e.guild = none) : AdminLookup e [] (.ok false)
  | memberFailed {guild : UInt64} (h : e.guild = some guild) (reason : String) :
      AdminLookup e [memberFailed guild e.author.id reason] (.error (memberFailure reason))
  | rolesFailed {guild : UInt64} (h : e.guild = some guild) (roles : List UInt64)
      (reason : String) :
      AdminLookup e [e.memberFound guild roles, rolesFailed guild reason]
        (.error (rolesFailure reason))
  | found {guild : UInt64} (h : e.guild = some guild) (roles : List UInt64) (table : RoleTable) :
      AdminLookup e [e.memberFound guild roles, rolesFound guild table]
        (.ok (RoleTable.grantsAdmin table roles))

/-- **The exchanges of the lookup.** -/
theorem runs_authorIsAdmin {e : Event} {exchanges : List Exchange}
    {admin : Except CommandError Bool} (h : Runs e.authorIsAdmin exchanges admin) :
    e.AdminLookup exchanges admin := by
  unfold authorIsAdmin at h
  split at h
  · next hguild =>
      obtain ⟨rfl, rfl⟩ := runs_done_iff.1 h
      exact .direct hguild
  · next guild hguild =>
      obtain ⟨member, rest, rfl, hrest⟩ := runs_ask_iff.1 h
      cases member with
      | error reason =>
          obtain ⟨rfl, rfl⟩ := runs_done_iff.1 hrest
          exact .memberFailed hguild reason
      | ok roles =>
          obtain ⟨found, rest', rfl, hrest'⟩ := runs_ask_iff.1 hrest
          cases found with
          | error reason =>
              obtain ⟨rfl, rfl⟩ := runs_done_iff.1 hrest'
              exact .rolesFailed hguild roles reason
          | ok table =>
              obtain ⟨rfl, rfl⟩ := runs_done_iff.1 hrest'
              exact .found hguild roles table

/-- Roles that make an administrator have one among them that the server knows and that does. -/
theorem exists_role_of_grantsAdmin {table : RoleTable} {roles : List UInt64}
    (h : RoleTable.grantsAdmin table roles = true) :
    ∃ role permissions, role ∈ roles ∧ table.lookup role = some permissions ∧
      permissions.bits &&& Permissions.administrator = Permissions.administrator := by
  obtain ⟨role, hrole, hgrants⟩ := List.any_eq_true.1 h
  split at hgrants
  · cases hgrants
  · next permissions hlookup =>
      have hbits : permissions.bits &&& Permissions.administrator = Permissions.administrator := by
        simpa [Permissions.isAdministrator] using hgrants
      exact ⟨role, permissions, hrole, hlookup, hbits⟩

/-! ### The shell command -/

/-- A command line with its outcome. -/
def launched (line : String) (outcome : Host.Outcome) : Exchange :=
  ⟨.service (.shell line), outcome⟩

/-- A command line is run if it is not blank. -/
theorem runs_runLine {e : Event} {line : String} {exchanges : List Exchange}
    {result : Except CommandError Reply}
    (h : Runs ((Action.runLine line).translate e.requestFor) exchanges result) :
    exchanges = [] ∨
      Text.isBlank line = false ∧ ∃ outcome, exchanges = [launched line outcome] := by
  unfold Action.runLine at h
  rw [Text.isEmpty_trim] at h
  split at h
  · exact .inl (runs_done_iff.1 h).1
  · next hblank =>
      rw [translate_ask] at h
      obtain ⟨outcome, rest, rfl, hrest⟩ := runs_ask_iff.1 h
      refine .inr ⟨by simpa using hblank, outcome, ?_⟩
      obtain ⟨_, asked, reply, rfl, hasked, hreply⟩ := runs_bind_iff.1 hrest
      obtain ⟨rfl, rfl⟩ := runs_done_iff.1 hasked
      have hnil : reply = [] := by
        split at hreply
        · exact (runs_done_iff.1 hreply).1
        · exact (runs_done_iff.1 hreply).1
      rw [hnil]
      rfl

/-- **The exchanges of the shell command**: the lookup, and a command line only if the lookup found
an administrator. -/
theorem runs_runAsAdmin {e : Event} {args : List String} {exchanges : List Exchange}
    {result : Except CommandError Reply}
    (h : Runs ((Action.runAsAdmin args).translate e.requestFor) exchanges result) :
    ∃ lookup rest admin, exchanges = lookup ++ rest ∧ e.AdminLookup lookup admin ∧
      (rest = [] ∨ admin = .ok true ∧ Text.isBlank (Search.line args) = false ∧
        ∃ outcome, rest = [launched (Search.line args) outcome]) ∧
      ∀ error, admin = .error error → rest = [] ∧ result = .error error := by
  unfold Action.runAsAdmin at h
  rw [translate_ask] at h
  obtain ⟨admin, lookup, rest, rfl, hlookup, hrest⟩ := runs_bind_iff.1 h
  have hadmin : Runs e.authorIsAdmin lookup admin := hlookup
  refine ⟨lookup, rest, admin, rfl, runs_authorIsAdmin hadmin, ?_⟩
  cases admin with
  | error error =>
      obtain ⟨rfl, rfl⟩ := runs_done_iff.1 hrest
      refine ⟨.inl rfl, ?_⟩
      rintro _ ⟨⟩
      exact ⟨rfl, rfl⟩
  | ok admin =>
      dsimp only at hrest
      split at hrest
      · next hadmin =>
          refine ⟨?_, by rintro _ ⟨⟩⟩
          rcases runs_runLine hrest with hnil | ⟨hblank, hlaunched⟩
          · exact .inl hnil
          · exact .inr ⟨by rw [hadmin], hblank, hlaunched⟩
      · obtain ⟨rfl, rfl⟩ := runs_done_iff.1 hrest
        exact ⟨.inl rfl, by rintro _ ⟨⟩⟩

/-! ### Letting nobody else in -/

/-- **What has to come before a command line**: a message of a person in a server, which says that
very line after the prefix and a verb, and two lookups that find a role of an administrator. -/
structure MayLaunch (lead : String) (e : Event) (before : List Exchange) (line : String) :
    Prop where
  nonempty : e.text ≠ ""
  human : e.author.bot = false
  admin : ∃ guild roles table role permissions earlier, e.guild = some guild ∧
    before = earlier ++ [e.memberFound guild roles, rolesFound guild table] ∧
    role ∈ roles ∧ table.lookup role = some permissions ∧
    permissions.bits &&& Permissions.administrator = Permissions.administrator
  written : e.text = lead ++ "exec " ++ line ∨ e.text = lead ++ "sh " ++ line
  visible : ∃ c ∈ line.toList, Text.isSpace c = false

/-- **The exchanges about an event that let nobody else in.**  There is one command line at most,
and what has to come before it does.  After a lookup that failed nothing happens but that the
failure is reported. -/
structure KeepsHost (lead : String) (e : Event) (part : List Exchange) : Prop where
  launch : ∀ before line outcome after, part = before ++ launched line outcome :: after →
    e.MayLaunch lead before line ∧ Lacks .shell before ∧ Lacks .shell after
  noMember : ∀ before guild user reason after,
    part = before ++ memberFailed guild user reason :: after →
      Lacks .shell before ∧ Runs (Instance.send e.channel (memberFailure reason).reply) after ()
  noRoles : ∀ before guild reason after, part = before ++ rolesFailed guild reason :: after →
      Lacks .shell before ∧ Runs (Instance.send e.channel (rolesFailure reason).reply) after ()

variable {lead : String} {e : Event}

/-- Whoever does not ask about the host does not get in. -/
theorem KeepsHost.of_offHost {part : List Exchange} (h : OffHost part) : e.KeepsHost lead part := by
  refine ⟨?_, ?_, ?_⟩
  · rintro before line outcome after rfl
    have hshell : Lacks .shell _ := h.lacks
    exact hshell.absurd rfl
  · rintro before guild user reason after rfl
    have hmember : Lacks .member _ := h.lacks
    exact hmember.absurd rfl
  · rintro before guild reason after rfl
    have hroles : Lacks .roles _ := h.lacks
    exact hroles.absurd rfl

section Lookups

variable {front last : List Exchange} {guild : UInt64}

/-- A member who cannot be looked up does not get in. -/
theorem KeepsHost.of_memberFailed {reason : String} (hfront : OffHost front) (hlast : OffHost last)
    (hreport : Runs (Instance.send e.channel (memberFailure reason).reply) last ()) :
    e.KeepsHost lead (front ++ memberFailed guild e.author.id reason :: last) := by
  have hshell : Lacks .shell (front ++ memberFailed guild e.author.id reason :: last) :=
    lacks_append.2 ⟨hfront.lacks, lacks_cons.2 ⟨nofun, hlast.lacks⟩⟩
  have hroles : Lacks .roles (front ++ memberFailed guild e.author.id reason :: last) :=
    lacks_append.2 ⟨hfront.lacks, lacks_cons.2 ⟨nofun, hlast.lacks⟩⟩
  refine ⟨?_, ?_, ?_⟩
  · intro before line outcome after hpart
    rw [hpart] at hshell
    exact hshell.absurd rfl
  · intro before guild' user reason' after hpart
    obtain ⟨rfl, hsame, rfl⟩ := eq_of_lacks hpart.symm rfl hfront.lacks hlast.lacks
    cases hsame
    exact ⟨hfront.lacks, hreport⟩
  · intro before guild' reason' after hpart
    rw [hpart] at hroles
    exact hroles.absurd rfl

/-- A member of a server whose roles cannot be looked up does not get in. -/
theorem KeepsHost.of_rolesFailed {roles : List UInt64} {reason : String} (hfront : OffHost front)
    (hlast : OffHost last)
    (hreport : Runs (Instance.send e.channel (rolesFailure reason).reply) last ()) :
    e.KeepsHost lead (front ++ e.memberFound guild roles :: rolesFailed guild reason :: last) := by
  have hshell : Lacks .shell
      (front ++ e.memberFound guild roles :: rolesFailed guild reason :: last) :=
    lacks_append.2 ⟨hfront.lacks, lacks_cons.2 ⟨nofun, lacks_cons.2 ⟨nofun, hlast.lacks⟩⟩⟩
  refine ⟨?_, ?_, ?_⟩
  · intro before line outcome after hpart
    rw [hpart] at hshell
    exact hshell.absurd rfl
  · intro before guild' user reason' after hpart
    obtain ⟨-, hsame, -⟩ := eq_of_lacks hpart.symm rfl hfront.lacks
      (lacks_cons.2 ⟨nofun, hlast.lacks⟩)
    cases hsame
  · intro before guild' reason' after hpart
    have hpart' : before ++ rolesFailed guild' reason' :: after =
        (front ++ [e.memberFound guild roles]) ++ rolesFailed guild reason :: last := by
      rw [← hpart, List.append_assoc]
      rfl
    obtain ⟨rfl, hsame, rfl⟩ := eq_of_lacks hpart' rfl
      (lacks_append.2 ⟨hfront.lacks, lacks_cons.2 ⟨nofun, lacks_nil⟩⟩) hlast.lacks
    cases hsame
    exact ⟨lacks_append.2 ⟨hfront.lacks, lacks_cons.2 ⟨nofun, lacks_nil⟩⟩, hreport⟩

/-- After lookups that succeed nothing is reported, whatever comes of them. -/
theorem KeepsHost.of_found {roles : List UInt64} {table : RoleTable} {rest : List Exchange}
    (hfront : OffHost front) (hmember : Lacks .member rest) (hroles : Lacks .roles rest)
    (hlaunch : ∀ before line outcome after,
      front ++ e.memberFound guild roles :: rolesFound guild table :: rest =
        before ++ launched line outcome :: after →
      e.MayLaunch lead before line ∧ Lacks .shell before ∧ Lacks .shell after) :
    e.KeepsHost lead (front ++ e.memberFound guild roles :: rolesFound guild table :: rest) := by
  refine ⟨hlaunch, ?_, ?_⟩
  · intro before guild' user reason after hpart
    obtain ⟨-, hsame, -⟩ := eq_of_lacks hpart.symm rfl hfront.lacks
      (lacks_cons.2 ⟨nofun, hmember⟩)
    cases hsame
  · intro before guild' reason after hpart
    have hpart' : before ++ rolesFailed guild' reason :: after =
        (front ++ [e.memberFound guild roles]) ++ rolesFound guild table :: rest := by
      rw [← hpart, List.append_assoc]
      rfl
    obtain ⟨-, hsame, -⟩ := eq_of_lacks hpart' rfl
      (lacks_append.2 ⟨hfront.lacks, lacks_cons.2 ⟨nofun, lacks_nil⟩⟩) hroles
    cases hsame

/-- **The shell command lets nobody else in**, whatever comes of the lookups. -/
theorem KeepsHost.of_lookup {lookup rest : List Exchange} {admin : Except CommandError Bool}
    (line : String) (hfront : OffHost front) (hlast : OffHost last)
    (hignored : e.isIgnored = false) (hlookup : e.AdminLookup lookup admin)
    (hrest : rest = [] ∨ admin = .ok true ∧ Text.isBlank line = false ∧
      (e.text = lead ++ "exec " ++ line ∨ e.text = lead ++ "sh " ++ line) ∧
      ∃ outcome, rest = [launched line outcome])
    (hreport : ∀ error, admin = .error error →
      rest = [] ∧ Runs (Instance.send e.channel error.reply) last ()) :
    e.KeepsHost lead (front ++ (lookup ++ (rest ++ last))) := by
  cases hlookup with
  | direct hguild =>
      rcases hrest with rfl | ⟨hadmin, -⟩
      · exact .of_offHost (hfront.append hlast)
      · cases hadmin
  | memberFailed hguild reason =>
      obtain ⟨rfl, hsend⟩ := hreport _ rfl
      exact .of_memberFailed hfront hlast hsend
  | rolesFailed hguild roles reason =>
      obtain ⟨rfl, hsend⟩ := hreport _ rfl
      exact .of_rolesFailed hfront hlast hsend
  | @found guild hguild roles table =>
      rcases hrest with rfl | ⟨hadmin, hblank, htext, outcome, rfl⟩
      · refine .of_found hfront hlast.lacks hlast.lacks ?_
        intro before line' outcome after hpart
        have hshell : Lacks .shell
            (front ++ e.memberFound guild roles :: rolesFound guild table :: last) :=
          lacks_append.2 ⟨hfront.lacks,
            lacks_cons.2 ⟨nofun, lacks_cons.2 ⟨nofun, hlast.lacks⟩⟩⟩
        have hlaunched : Lacks .shell (before ++ launched line' outcome :: after) := by
          rw [← hpart]
          exact hshell
        exact hlaunched.absurd rfl
      · refine .of_found hfront (lacks_cons.2 ⟨nofun, hlast.lacks⟩)
          (lacks_cons.2 ⟨nofun, hlast.lacks⟩) ?_
        intro before line' outcome' after hpart
        -- There is one command line only, and it stands right after the two lookups.
        have hpart' : before ++ launched line' outcome' :: after =
            (front ++ [e.memberFound guild roles, rolesFound guild table]) ++
              launched line outcome :: last := by
          rw [← hpart, List.append_assoc]
          rfl
        have hbefore : Lacks .shell
            (front ++ [e.memberFound guild roles, rolesFound guild table]) :=
          lacks_append.2 ⟨hfront.lacks, lacks_cons.2 ⟨nofun, lacks_cons.2 ⟨nofun, lacks_nil⟩⟩⟩
        obtain ⟨rfl, hsame, rfl⟩ := eq_of_lacks hpart' rfl hbefore hlast.lacks
        cases hsame
        refine ⟨⟨?_, ?_, ?_, htext, ?_⟩, hbefore, hlast.lacks⟩
        · intro hempty
          simp [isIgnored, hempty] at hignored
        · simp only [isIgnored, Bool.or_eq_false_iff] at hignored
          exact hignored.2
        · have hgrants : RoleTable.grantsAdmin table roles = true := by
            simpa using hadmin
          obtain ⟨role, permissions, hrole, hpermissions, hbits⟩ :=
            exists_role_of_grantsAdmin hgrants
          exact ⟨guild, roles, table, role, permissions, front, hguild, rfl, hrole, hpermissions,
            hbits⟩
        · simpa [Text.isBlank] using hblank

end Lookups

end Event

/-! ### Events -/

/-- The report of a failure is not empty. -/
theorem CommandError.nonempty?_reply (error : CommandError) :
    error.reply.nonempty? = some error.reply := by
  have htext : ("❌ " ++ error.message).isEmpty = false := by
    rw [Bool.eq_false_iff]
    intro hempty
    have hchars := congrArg String.toList (String.isEmpty_iff.1 hempty)
    simp at hchars
  simp only [Reply.nonempty?, CommandError.reply, Reply.isEmpty_ofText, htext, Bool.false_eq_true,
    if_false]

/-- What a message with a verb of the shell command says. -/
theorem text_of_shell {lead text verb : String} {args : List String}
    (hparse : Invocation.parse? lead text = some ⟨verb, args⟩) (hverb : verb = "exec" ∨ verb = "sh")
    (hblank : Text.isBlank (Search.line args) = false) :
    text = lead ++ "exec " ++ Search.line args ∨ text = lead ++ "sh " ++ Search.line args := by
  have hargs : args ≠ [] := by
    rintro rfl
    simp [Search.line] at hblank
  obtain ⟨-, htext⟩ := Invocation.text_of_parse? hparse
  rw [Invocation.text_eq_of_args hargs] at htext
  rcases hverb with rfl | rfl
  · exact .inl htext
  · exact .inr htext

namespace Instance

variable {settings : Settings} {hasStore : Bool}

/-- **No event lets anybody else in.** -/
theorem keepsHost_of_runs {e : Event} {now : Timestamp} {draw : Nat} {part : List Exchange}
    (h : Runs ((⟨settings, Registry.builtin, hasStore⟩ : Instance).handle e now draw) part ()) :
    e.KeepsHost settings.commandPrefix part := by
  rcases runs_handle h with rfl | ⟨hignored, nsfw, reply, first, middle, last, rfl, hfirst, hmiddle,
    hlast⟩
  · exact .of_offHost .nil
  have hfirstOff : OffHost first :=
    .of_runs ((channelIsNsfw_asks _ e).mono (by rintro _ rfl; rfl)) hfirst
  have hlastOff : OffHost last :=
    .of_runs ((sendAnswer_asks e.channel reply).mono (by rintro _ ⟨r, rfl⟩; rfl)) hlast
  rcases runs_answer hmiddle with rfl | ⟨command, args, result, counting, executing, hroute, rfl,
    hcounting, hexecuting, rfl⟩
  · exact .of_offHost (hfirstOff.append hlastOff)
  have hcountingOff : OffHost counting :=
    .of_runs ((countAuthor_asks _).translate (by
      rintro _ ⟨r, rfl⟩
      exact e.requestFor_asks trivial)) hcounting
  by_cases hshell : command.action = .shell
  · -- Only the execution of the shell command asks about the host.
    obtain ⟨verb, hparse, hresolve⟩ := route_eq_command hroute
    obtain ⟨hverb, hstore⟩ := Command.verb_of_shell hresolve hshell
    simp only [Command.execute, hstore, Bool.false_and, Bool.false_eq_true, if_false, hshell,
      Action.perform] at hexecuting
    obtain ⟨lookup, rest, admin, rfl, hlookup, hrest, herror⟩ := Event.runs_runAsAdmin hexecuting
    have hpart : first ++ (counting ++ (lookup ++ rest) ++ last) =
        (first ++ counting) ++ (lookup ++ (rest ++ last)) := by
      simp only [List.append_assoc]
    rw [hpart]
    refine .of_lookup (Search.line args) (hfirstOff.append hcountingOff) hlastOff hignored hlookup
      ?_ ?_
    · rcases hrest with hnil | ⟨hadmin, hblank, hlaunched⟩
      · exact .inl hnil
      · exact .inr ⟨hadmin, hblank, text_of_shell hparse hverb hblank, hlaunched⟩
    · intro error hadmin
      obtain ⟨hnil, rfl⟩ := herror error hadmin
      rw [replyOf, error.nonempty?_reply] at hlast
      exact ⟨hnil, hlast⟩
  · have hexecutingOff : OffHost executing :=
      .of_runs ((Command.execute_isOffHost hshell args _).translate
        fun _ hr => e.requestFor_asks hr) hexecuting
    exact .of_offHost (hfirstOff.append ((hcountingOff.append hexecutingOff).append hlastOff))

/-- **No sequence of events lets anybody else in.**  What is exchanged falls into parts, one for
each event, and a command line reaches the host only as its event allows. -/
theorem shell_access (settings : Settings) (hasStore : Bool) {arrivals : List Arrival}
    {exchanges : List Exchange}
    (h : Runs ((⟨settings, Registry.builtin, hasStore⟩ : Instance).handleAll arrivals)
      exchanges ()) :
    ∃ parts, exchanges = parts.flatten ∧ List.Forall₂ (fun a part =>
      Runs ((⟨settings, Registry.builtin, hasStore⟩ : Instance).handle a.event a.now a.draw)
        part () ∧ a.event.KeepsHost settings.commandPrefix part) arrivals parts := by
  obtain ⟨parts, hexchanges, hparts⟩ := runs_handleAll h
  exact ⟨parts, hexchanges, hparts.imp fun a part hpart => ⟨hpart, keepsHost_of_runs hpart⟩⟩

/-! ### An administrator -/

/-- A message that asks for a shell. -/
def echo : Arrival where
  event := ⟨".exec echo  hi", ⟨7, "ann", false⟩, [], 1, some 9⟩
  now := .epoch
  draw := 0

/-- What the command line of that message leaves. -/
def echoOutcome : Host.Outcome := .ended (.exited 0) [0x68, 0x69, 0x0a] []

/-- A shell on the host leaves just this. -/
theorem run_echo : (Shell.run "echo  hi" Rehearsal.HostFiles.standard).1 = echoOutcome := by
  decide +kernel

/-- What is exchanged about the message of an administrator: the command line reaches the host with
all its spaces. -/
def echoExchanges : List Exchange := [
  ⟨.channel 1, Except.ok (.ofServer false)⟩,
  ⟨.member 9 7, Except.ok [5]⟩,
  ⟨.roles 9, Except.ok [(5, ⟨Permissions.administrator⟩)]⟩,
  ⟨.service (.shell "echo  hi"), echoOutcome⟩,
  ⟨.send 1 (.ofText "\x60\x60\x60\nhi\n\n\x60\x60\x60"), Except.ok ()⟩]

theorem shell_access_echo :
    Runs (plain.handleAll [echo]) echoExchanges () ∧
      ⟨.service (.shell "echo  hi"), (Shell.run "echo  hi" Rehearsal.HostFiles.standard).1⟩ ∈
        echoExchanges ∧
      ∃ parts, echoExchanges = parts.flatten ∧ List.Forall₂ (fun a part =>
        Runs (plain.handle a.event a.now a.draw) part () ∧ a.event.KeepsHost "." part)
          [echo] parts := by
  have hruns : Runs (plain.handleAll [echo]) echoExchanges () :=
    .ask _ (.ask _ (.ask _ (.ask _ (.ask _ (.done ())))))
  have hshell : ⟨.service (.shell "echo  hi"), echoOutcome⟩ ∈ echoExchanges := by
    simp [echoExchanges]
  rw [run_echo]
  exact ⟨hruns, hshell, shell_access plain.settings plain.hasStore hruns⟩

end Instance

end CommandBot
