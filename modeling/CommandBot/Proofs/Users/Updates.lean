/-
**Updates of a record.**

An update is written in the spelling of the program, over a hash whose other fields may be spelled
in any way that can be read.  The fields it gives read back as they were given, a moment to the
nanosecond, and the others read as before, since their texts are the same.

Main results:

* `CommandBot.UserRecord.ofHash_update` — the record that a hash holds after an update;
* `CommandBot.UserUpdate.get?_setAll_fields_of_unset` — what an update does not give stays;
* `CommandBot.Users.run_set_of_ok` — setting fields of a record is one write, or none if there is
  nothing to set;
* `CommandBot.Users.set_updates` — **after an update the record is found with the new values, and
  all else as it was.**
-/

import CommandBot.Proofs.Time.Rfc3339
import CommandBot.Proofs.Users.Posts
import CommandBot.Proofs.Users.Writes

set_option relaxedAutoImplicit false
set_option autoImplicit false

namespace CommandBot

/-! ### The record after an update -/

namespace UserUpdate

open UserRecord

theorem value?_username (u : UserUpdate) : u.value? usernameField = u.username := rfl

theorem value?_bot (u : UserUpdate) : u.value? botField = u.bot.map botText := rfl

theorem value?_posts (u : UserUpdate) :
    u.value? postsField = u.posts.map fun n => n.toNat.repr := rfl

theorem value?_lastSeen (u : UserUpdate) :
    u.value? lastSeenField = u.lastSeen.map Timestamp.text := rfl

/-- A field that an update does not give is as it was. -/
theorem get?_setAll_fields_of_unset {u : UserUpdate} {name : String}
    (husername : name = usernameField → u.username = none) (hbot : name = botField → u.bot = none)
    (hposts : name = postsField → u.posts = none)
    (hseen : name = lastSeenField → u.lastSeen = none) (h : Hash) :
    (h.setAll u.fields).get? name = h.get? name := by
  have hnone : u.value? name = none := by
    unfold value?
    split
    · next hn => exact husername hn
    · split
      · next hn => rw [hbot hn]; rfl
      · split
        · next hn => rw [hposts hn]; rfl
        · split
          · next hn => rw [hseen hn]; rfl
          · rfl
  rw [get?_setAll_fields, hnone, Option.none_or]

theorem field_eq_nil_iff {name : String} {value : Option String} :
    field name value = [] ↔ value = none := by
  cases value with
  | none => simp [field]
  | some text => simp [field]

/-- Only the update that changes nothing gives no field. -/
theorem fields_isEmpty_iff {u : UserUpdate} : u.fields.isEmpty = true ↔ u = unchanged := by
  obtain ⟨username, bot, posts, lastSeen⟩ := u
  simp [fields, field_eq_nil_iff, unchanged]

end UserUpdate

namespace UserRecord

open UserUpdate

/-- A moment that four digits can show the year of reads as it was written. -/
theorem readLastSeen_text {t : Timestamp} (h : t.HasPlainYear) :
    readLastSeen (some t.text) = some t :=
  Timestamp.read?_text h

/-- **The record that a hash holds after an update**: what the update gives, and the rest as it
was. -/
theorem ofHash_update {id : UInt64} {h : Hash} {r : UserRecord} (hr : ofHash id h = .ok r)
    {u : UserUpdate} (hname : u.username ≠ some "")
    (hseen : ∀ t, u.lastSeen = some t → t.HasPlainYear) :
    ofHash id (h.setAll u.fields) =
      .ok { r with
        username := u.username.getD r.username
        bot := u.bot.getD r.bot
        posts := u.posts.getD r.posts
        lastSeen := u.lastSeen.or r.lastSeen } := by
  obtain ⟨hid, husername, hne, hbot, hposts, hlast⟩ := ofHash_eq_ok_iff.1 hr
  rw [ofHash_eq_ok_iff]
  simp only [get?_setAll_fields, value?_username, value?_bot, value?_posts, value?_lastSeen]
  obtain ⟨username, bot, posts, lastSeen⟩ := u
  refine ⟨hid, ?_, ?_, ?_, ?_, ?_⟩
  · cases username with
    | none => exact husername
    | some name => rfl
  · cases username with
    | none => exact hne
    | some name => exact fun hempty => hname (congrArg some hempty)
  · cases bot with
    | none => exact hbot
    | some flag => exact readBot_botText flag
  · cases posts with
    | none => exact hposts
    | some count => exact readPosts_repr count
  · cases lastSeen with
    | none => exact hlast
    | some t => exact (readLastSeen_text (hseen t rfl)).symm

end UserRecord

/-! ### The operation -/

namespace Users

open Program

variable {s : Store} {id : UInt64} {r : UserRecord}

/-- **Setting fields of a record is one write**, or none if there is nothing to set. -/
theorem run_set_of_ok (hr : s.record id = .ok r) (u : UserUpdate) :
    (set id u).run Store.answer s =
        (.ok (), if u = .unchanged then s else s.write (userKey id) u.fields) ∧
      writesOf ((set id u).transcript Store.answer s) =
        if u = .unchanged then [] else [.setFields (userKey id) u.fields] := by
  have hfind := writesOf_of_reads (find_reads id) (runs_transcript Store.answer (find id) s)
  rw [set, run_bind, transcript_bind, run_find, hr]
  dsimp only
  by_cases hu : u = .unchanged
  · rw [if_pos (UserUpdate.fields_isEmpty_iff.2 hu), if_pos hu, if_pos hu]
    exact ⟨rfl, by simpa using hfind⟩
  · rw [if_neg (mt UserUpdate.fields_isEmpty_iff.1 hu), if_neg hu, if_neg hu]
    refine ⟨rfl, ?_⟩
    rw [writesOf, List.map_append, List.filter_append]
    exact congrArg (· ++ _) hfind

/-- **What an update does to a record that is there**, by what it exchanged, its result and the
store after it. -/
structure Updates (s : Store) (id : UInt64) (r : UserRecord) (u : UserUpdate)
    (exchanges : List ((q : StoreRequest) × q.Answer)) (result : Except StoreError Unit)
    (t : Store) : Prop where
  done : result = .ok ()
  /-- The record is found with the new values. -/
  found : (find id).run Store.answer t =
    (.ok { r with
      username := u.username.getD r.username
      bot := u.bot.getD r.bot
      posts := u.posts.getD r.posts
      lastSeen := u.lastSeen.or r.lastSeen }, t)
  /-- A field that the update does not give has the same text as before. -/
  kept : ∀ name, (name = "username" → u.username = none) → (name = "isBot" → u.bot = none) →
    (name = "posts" → u.posts = none) → (name = "lastSeen" → u.lastSeen = none) →
      (t.hash (userKey id)).get? name = (s.hash (userKey id)).get? name
  /-- Nobody else's hash changes. -/
  others : ∀ key, key ≠ userKey id → t.get? key = s.get? key
  /-- The update that changes nothing writes nothing. -/
  idle : u = .unchanged → writesOf exchanges = [] ∧ t = s

/-- **After an update the record is found with the new values**, and all else is as it was.  The
name that is given must not be empty, and a moment must be of a year that four digits show. -/
theorem set_updates (hr : s.record id = .ok r) {u : UserUpdate} (hname : u.username ≠ some "")
    (hseen : ∀ t, u.lastSeen = some t → t.HasPlainYear) :
    Updates s id r u ((set id u).transcript Store.answer s) ((set id u).run Store.answer s).1
      ((set id u).run Store.answer s).2 := by
  obtain ⟨hrun, hwrites⟩ := run_set_of_ok hr u
  rw [hrun]
  have hhash : ((if u = .unchanged then s else s.write (userKey id) u.fields).hash (userKey id)) =
      (s.hash (userKey id)).setAll u.fields := by
    split
    · next hu =>
        rw [hu]
        rfl
    · exact Store.hash_write_self s _ _
  refine ⟨rfl, ?_, ?_, ?_, ?_⟩
  · rw [run_find, Store.record, hhash, UserRecord.ofHash_update hr hname hseen]
  · intro name husername hbot hposts hlast
    rw [hhash]
    exact UserUpdate.get?_setAll_fields_of_unset husername hbot hposts hlast _
  · intro key hkey
    split
    · rfl
    · exact Store.get?_write_of_ne hkey.symm
  · intro hu
    rw [if_pos hu] at hwrites
    exact ⟨hwrites, if_pos hu⟩

/-! ### A record in other spellings -/

/-- A record that somebody else has written, with a field of their own. -/
def foreignStore : Store :=
  ⟨[("user:7", ⟨[("note", "mine"), ("username", "ann"), ("isBot", "false"), ("posts", "+041"),
    ("lastSeen", "2016-12-31t22:59:60.5-01:00")]⟩)]⟩

/-- What the program reads there. -/
def foreignRecord : UserRecord := ⟨7, "ann", false, 41, some .leapSecond⟩

/-- A new name, the greatest count, and the last nanosecond of the year 9999. -/
def lastUpdate : UserUpdate where
  username := some "Änn 🌞"
  bot := none
  posts := some 18446744073709551615
  lastSeen := some ⟨253402300799, 999999999, by decide, by decide⟩

theorem set_updates_foreign :
    foreignStore.record 7 = .ok foreignRecord ∧ lastUpdate.username ≠ some "" ∧
    (∀ t, lastUpdate.lastSeen = some t → t.HasPlainYear) ∧
    Updates foreignStore 7 foreignRecord lastUpdate
      ((set 7 lastUpdate).transcript Store.answer foreignStore)
      ((set 7 lastUpdate).run Store.answer foreignStore).1
      ((set 7 lastUpdate).run Store.answer foreignStore).2 := by
  have hread : Timestamp.read? "2016-12-31t22:59:60.5-01:00" = some .leapSecond := by decide +kernel
  have hrecord : foreignStore.record 7 = .ok foreignRecord :=
    UserRecord.ofHash_eq_ok_iff.2 ⟨rfl, rfl, by decide, rfl, rfl, hread.symm⟩
  have hname : lastUpdate.username ≠ some "" := by decide
  have hseen : ∀ t, lastUpdate.lastSeen = some t → t.HasPlainYear := by
    rintro _ ⟨⟩
    decide
  exact ⟨hrecord, hname, hseen, set_updates hrecord hname hseen⟩

end Users

end CommandBot
