import PoolFeed.Proofs.Program.Quiet

/-!
# Passwords in what the program shows

Two runs of a command are given settings that differ in the passwords of their URLs only, and find
the same outside. Whatever the program shows of its database is masked, so that both runs show the
same. The URL of the broker is masked where the settings are described, but not where the broker is
opened: it is reported as it is, and told again if no broker is reached.

## Main statements

* `Url.maskPassword_eq` — masked URLs that differ in their passwords only are the same
* `Settings.describe_eq` — so are the descriptions of settings
* `Command.openStore_eq` — a database is opened with the same remarks and failures
* `Command.openBroker_parts` — programs part where they open their brokers
* `Program.Twins.invoke_parts` — so do two runs of one command
* `Program.shows_passwords_iff` — what two runs show, and where they differ
-/

namespace PoolFeed

/-! ## URLs that differ in their passwords -/

namespace Url

variable {u : Url} {p : List Char} {a b : String}

/-- A URL with another password. -/
def withPassword (u : Url) (password : List Char) : Url :=
  { u with authority := u.authority.map ({ · with password }) }

/-- Whether texts are the same, or URLs that differ in passwords only which both of them have. -/
def SameButPassword (a b : String) : Prop :=
  a = b ∨ ∃ (u : Url) (p q : List Char), p ≠ [] ∧ q ≠ []
    ∧ parse? a = some (u.withPassword p) ∧ parse? b = some (u.withPassword q)

theorem masked_withPassword (h : p ≠ []) : (u.withPassword p).masked = u.withPassword mask := by
  unfold masked withPassword
  cases u.authority with
  | none => rfl
  | some authority => simp [h]

/-- **Masked URLs that differ in their passwords only are the same.** -/
theorem maskPassword_eq (h : SameButPassword a b) : maskPassword a = maskPassword b := by
  rcases h with rfl | ⟨u, p, q, hp, hq, ha, hb⟩
  · rfl
  · simp only [maskPassword, ha, hb, masked_withPassword hp, masked_withPassword hq]

theorem map_maskPassword_eq {d d' : Option String} (h : Option.Rel SameButPassword d d') :
    d.map maskPassword = d'.map maskPassword := by
  cases h with
  | some h => exact congrArg some (maskPassword_eq h)
  | none => rfl

end Url

/-! ## Settings -/

namespace Settings

variable {s s' : Settings}

/-- Whether settings differ in the passwords of their URLs only. -/
structure SameButPasswords (s s' : Settings) : Prop where
  databaseUrl : Option.Rel Url.SameButPassword s.databaseUrl s'.databaseUrl
  brokerUrl : Url.SameButPassword s.brokerUrl s'.brokerUrl
  namespaceText : s.namespaceText = s'.namespaceText
  publishSeconds : s.publishSeconds = s'.publishSeconds
  storeSeconds : s.storeSeconds = s'.storeSeconds

theorem topics_eq (h : s.SameButPasswords s') : s.topics = s'.topics :=
  congrArg (Topics.mk <| Text.trimmed ·) h.namespaceText

theorem publishTimeout_eq (h : s.SameButPasswords s') : s.publishTimeout = s'.publishTimeout :=
  congrArg Duration.ofSeconds h.publishSeconds

theorem storeTimeout_eq (h : s.SameButPasswords s') : s.storeTimeout = s'.storeTimeout :=
  congrArg Duration.ofSeconds h.storeSeconds

/-- **Settings that differ in passwords only are described alike.** -/
theorem describe_eq (h : s.SameButPasswords s') : s.describe = s'.describe := by
  simp only [describe, Url.map_maskPassword_eq h.databaseUrl, Url.maskPassword_eq h.brokerUrl,
    h.namespaceText, h.publishSeconds, h.storeSeconds]

theorem SameButPasswords.databaseUrl_cases (h : s.SameButPasswords s') :
    (s.databaseUrl = none ∧ s'.databaseUrl = none) ∨ ∃ url url', s.databaseUrl = some url
      ∧ s'.databaseUrl = some url' ∧ Url.SameButPassword url url' := by
  obtain ⟨hrel, -⟩ := h
  generalize s.databaseUrl = d at hrel ⊢
  generalize s'.databaseUrl = d' at hrel ⊢
  cases hrel with
  | none => exact Or.inl ⟨rfl, rfl⟩
  | some hsame => exact Or.inr ⟨_, _, rfl, rfl, hsame⟩

theorem check_of_resolve {files : Files} {path : Option String} {o : Overrides}
    (h : resolve files path o = .ok s) : s.check = .ok () := by
  unfold resolve at h
  simp only at h
  split at h
  · cases h
  · split at h
    · cases h
    · next hcheck =>
      cases h
      exact hcheck

/-- The URL of the database, if there is one, is a connection string. -/
theorem checkDatabase_of_check {url : String} (h : s.check = .ok ())
    (hurl : s.databaseUrl = some url) : ConnectionString.check url = .ok () := by
  unfold check at h
  rw [hurl, Option.map_some] at h
  cases hcheck : ConnectionString.check url with
  | ok => rfl
  | error e =>
    rw [hcheck] at h
    cases h

/-- The failure of a program that does not reach its broker. -/
def brokerFailure (s : Settings) (f : Failure) : Failure :=
  f.within s!"Failed to connect to NATS at {s.brokerUrl}"

/-- The failure of a program that does not reach its broker tells the URL of the broker. -/
theorem brokerUrl_eq_of_report {f : Failure}
    (h : (s.brokerFailure f).report = (s'.brokerFailure f).report) :
    s.brokerUrl = s'.brokerUrl := by
  refine (String.append_right_inj "Failed to connect to NATS at ").mp ?_
  exact (String.append_right_inj "Error: ").mp ((String.append_left_inj _).mp h)

end Settings

namespace Database.Opening

variable {α : Type} [Server α] {url url' : String}

/-- Attempts to reach a database show no password. -/
theorem attempt_congr (hurl : ConnectionString.check url = .ok ())
    (hurl' : ConnectionString.check url' = .ok ())
    (hmask : Url.maskPassword url = Url.maskPassword url') (limit : Duration)
    (certificates : Bool) (reached : Option α) :
    attempt ⟨url, limit, certificates⟩ reached = attempt ⟨url', limit, certificates⟩ reached := by
  unfold attempt
  simp only [hurl, hurl', hmask]
  rfl

theorem run_congr (hurl : ConnectionString.check url = .ok ())
    (hurl' : ConnectionString.check url' = .ok ())
    (hmask : Url.maskPassword url = Url.maskPassword url') (limit : Duration)
    (certificates : Bool) (reached : Nat → Option α) :
    run ⟨url, limit, certificates⟩ reached = run ⟨url', limit, certificates⟩ reached :=
  congrArg (Backoff.retry maxRetries firstPause)
    (funext fun n => attempt_congr hurl hurl' hmask limit certificates (reached n))

theorem result_congr {o o' : Opening} {reached : Nat → Option α}
    (h : o.run reached = o'.run reached) : o.result reached = o'.result reached := by
  unfold result
  congr 1
  rw [h]

end Database.Opening

open Database (DatabaseStore Opening Server)

/-! ## Parts of commands -/

namespace Command

variable {α τ β γ : Type} {s s' : Settings} {x x' : Surroundings α τ}

/-- **A database is opened with the same remarks and failures**, whatever the password is. -/
theorem openStore_eq [Server α] (h : s.SameButPasswords s') (hs : s.check = .ok ())
    (hs' : s'.check = .ok ()) (hdatabase : x'.database = x.database)
    (hcertificates : x'.acceptsInvalidCertificates = x.acceptsInvalidCertificates) :
    (openStore s x : Action α τ (DatabaseStore α)) = openStore s' x' := by
  unfold openStore Settings.requireDatabase
  rw [Settings.storeTimeout_eq h, hdatabase, hcertificates]
  rcases h.databaseUrl_cases with ⟨hnone, hnone'⟩ | ⟨url, url', hurl, hurl', hsame⟩
  · rw [hnone, hnone']
  · rw [hurl, hurl']
    -- An accepted URL is told in its masked form only, so that nothing else of it is of account.
    have hmask := Url.maskPassword_eq hsame
    have hrun := Opening.run_congr (Settings.checkDatabase_of_check hs hurl)
      (Settings.checkDatabase_of_check hs' hurl') hmask s'.storeTimeout
      x.acceptsInvalidCertificates x.database
    have hresult := Opening.result_congr hrun
    simp only [Command.require, pure_bind, hmask, hrun, hresult]

/-! ## Where two runs part -/

/-- The remark with which a program opens its broker. -/
def brokerRemark (s : Settings) : Remark := .logged (.brokerConnecting s.brokerUrl)

theorem brokerRemark_notMem {rs : List Remark} (h : rs.all Remark.isQuiet) :
    brokerRemark s ∉ rs :=
  fun hmem => nomatch List.all_eq_true.mp h _ hmem

/--
How what two programs come to compares, and what they remark, if both find the same behind the URLs
of their brokers.
-/
inductive Parting (s s' : Settings) (reply : Except Failure τ) :
    Except Failure β → Except Failure β → List Remark → List Remark → Prop
  /-- They do not come to their brokers. -/
  | never {r : Except Failure β} {rs : List Remark} (hrs : rs.all Remark.isQuiet) :
    Parting s s' reply r r rs rs
  | reached (before : List Remark) {after : List Remark} {r : Except Failure β} {broker : τ}
    (hreply : reply = .ok broker) (hbefore : before.all Remark.isQuiet)
    (hafter : after.all Remark.isQuiet) :
    Parting s s' reply r r (before ++ brokerRemark s :: after) (before ++ brokerRemark s' :: after)
  | refused (before : List Remark) {f : Failure}
    (hreply : reply = .error f) (hbefore : before.all Remark.isQuiet) :
    Parting s s' reply (.error (s.brokerFailure f)) (.error (s'.brokerFailure f))
      (before ++ [brokerRemark s]) (before ++ [brokerRemark s'])

variable {reply : Except Failure τ}

theorem Parting.append_left {r r' : Except Failure β} {rs rs' front : List Remark}
    (h : Parting s s' reply r r' rs rs') (hfront : front.all Remark.isQuiet) :
    Parting s s' reply r r' (front ++ rs) (front ++ rs') := by
  have hall {before : List Remark} (hbefore : before.all Remark.isQuiet) :
      (front ++ before).all Remark.isQuiet := by
    rw [List.all_append, hfront, hbefore]
    rfl
  cases h with
  | never hrs => exact .never (hall hrs)
  | reached before hreply hbefore hafter =>
    rw [← List.append_assoc, ← List.append_assoc]
    exact .reached _ hreply (hall hbefore) hafter
  | refused before hreply hbefore =>
    rw [← List.append_assoc, ← List.append_assoc]
    exact .refused _ hreply (hall hbefore)

/-- How parts of two programs compare, wherever they begin. -/
def Parts (s s' : Settings) (reply : Except Failure τ) (a a' : Action α τ β) : Prop :=
  ∀ p : Progress α τ, ∃ (r r' : Except Failure β) (q : Progress α τ) (rs rs' : List Remark),
    Parting s s' reply r r' rs rs' ∧ ∀ front : List Remark,
      a.run { p with remarks := front } = (r, { q with remarks := front ++ rs })
        ∧ a'.run { p with remarks := front } = (r', { q with remarks := front ++ rs' })

theorem Parts.of_quiet {a : Action α τ β} (h : Quiet a) : Parts s s' reply a a := by
  intro p
  obtain ⟨r, q, rs, hrs, hrun⟩ := h p
  exact ⟨r, r, q, rs, rs, .never hrs, fun front => ⟨hrun front, hrun front⟩⟩

/-- A quiet part in front of others does not make them part. -/
theorem Parts.bind {a : Action α τ β} {k k' : β → Action α τ γ} (h : Quiet a)
    (hk : ∀ b, Parts s s' reply (k b) (k' b)) : Parts s s' reply (a >>= k) (a >>= k') := by
  intro p
  obtain ⟨r, q, rs, hrs, hrun⟩ := h p
  cases r with
  | error f =>
    refine ⟨.error f, .error f, q, rs, rs, .never hrs, fun front => ⟨?_, ?_⟩⟩
    · rw [run_bind, hrun]
    · rw [run_bind, hrun]
  | ok b =>
    obtain ⟨r, r', q', rs₁, rs₁', hparting, hruns⟩ := hk b q
    refine ⟨r, r', q', rs ++ rs₁, rs ++ rs₁', hparting.append_left hrs, fun front => ⟨?_, ?_⟩⟩
    · rw [run_bind, hrun, ← List.append_assoc]
      exact (hruns _).1
    · rw [run_bind, hrun, ← List.append_assoc]
      exact (hruns _).2

theorem run_openBroker (s : Settings) (x : Surroundings α τ) (p : Progress α τ) :
    (openBroker s x).run p = match x.broker s.brokerUrl with
      | .error f =>
        (.error (s.brokerFailure f), { p with remarks := p.remarks ++ [brokerRemark s] })
      | .ok broker =>
        (.ok broker, { p with
          remarks := p.remarks ++ [brokerRemark s] ++ [.logged .brokerConnected]
          broker := some broker }) := by
  unfold openBroker
  cases x.broker s.brokerUrl <;> rfl

/-- **Programs part where they open their brokers.** -/
theorem openBroker_parts {k : τ → Action α τ β} (hreply : x.broker s.brokerUrl = reply)
    (hreply' : x'.broker s'.brokerUrl = reply) (hk : ∀ broker, Quiet (k broker)) :
    Parts s s' reply (openBroker s x >>= k) (openBroker s' x' >>= k) := by
  intro p
  cases reply with
  | error f =>
    refine ⟨_, _, p, _, _, .refused [] rfl rfl, fun front => ⟨?_, ?_⟩⟩
    · rw [run_bind, run_openBroker, hreply]
      rfl
    · rw [run_bind, run_openBroker, hreply']
      rfl
  | ok broker =>
    obtain ⟨r, q, rs, hrs, hrun⟩ := hk broker { p with broker := some broker }
    have hafter : (Remark.logged .brokerConnected :: rs).all Remark.isQuiet := hrs
    have hfront (front : List Remark) (a b : Remark) :
        front ++ a :: b :: rs = front ++ [a] ++ [b] ++ rs := by simp
    refine ⟨r, r, q, _, _, .reached [] rfl rfl hafter, fun front => ⟨?_, ?_⟩⟩
    · simp only [run_bind, run_openBroker, hreply]
      rw [List.nil_append, hfront]
      exact hrun _
    · simp only [run_bind, run_openBroker, hreply']
      rw [List.nil_append, hfront]
      exact hrun _

/-! ## Commands -/

/-- What two programs find alike outside, apart from their settings. -/
structure SameOutside (x x' : Surroundings α τ) : Prop where
  database : x'.database = x.database
  deliveries : x'.deliveries = x.deliveries
  ending : x'.ending = x.ending
  now : x'.now = x.now
  certificates : x'.acceptsInvalidCertificates = x.acceptsInvalidCertificates

theorem watch_parts (h : s.SameButPasswords s') (hx : SameOutside x x')
    (hreply : x.broker s.brokerUrl = reply) (hreply' : x'.broker s'.brokerUrl = reply)
    (chain : String) (wish : Option Channel) :
    Parts s s' reply (watch s x chain wish : Action α τ Unit) (watch s' x' chain wish) := by
  unfold watch
  rw [Settings.topics_eq h, hx.deliveries, hx.ending]
  refine .bind (.require _) fun _ => openBroker_parts hreply hreply' fun _ => ?_
  refine .bind (.print _) fun _ => .bind (.modified fun _ _ => rfl) fun _ => ?_
  exact .bind (.report (Watch.events_follow_quiet ..)) fun _ => .forM _

variable [Server α]

theorem latest_parts (h : s.SameButPasswords s') (hs : s.check = .ok ()) (hs' : s'.check = .ok ())
    (hx : SameOutside x x') (chain : String) :
    Parts s s' reply (latest s x chain : Action α τ Unit) (latest s' x' chain) := by
  unfold latest
  rw [← openStore_eq h hs hs' hx.database hx.certificates]
  refine .of_quiet (.bind (.require _) fun _ => .bind openStore_quiet fun store => ?_)
  refine .bind (askStore_quiet (DatabaseStore.events_loadLatest_quiet chain) store) fun answer => ?_
  obtain ⟨found, _⟩ := answer
  cases found with
  | none => exact .print _
  | some snapshot => exact .forM _

theorem initSchema_parts (h : s.SameButPasswords s') (hs : s.check = .ok ())
    (hs' : s'.check = .ok ()) (hx : SameOutside x x') :
    Parts s s' reply (initSchema s x : Action α τ Unit) (initSchema s' x') := by
  unfold initSchema
  rw [← openStore_eq h hs hs' hx.database hx.certificates]
  refine .of_quiet (.bind openStore_quiet fun store => ?_)
  exact .bind (askStore_quiet DatabaseStore.events_ensureSchema_quiet store) fun _ => .print _

theorem publish_parts [Transport τ] (h : s.SameButPasswords s') (hs : s.check = .ok ())
    (hs' : s'.check = .ok ()) (hx : SameOutside x x') (hreply : x.broker s.brokerUrl = reply)
    (hreply' : x'.broker s'.brokerUrl = reply) {file : String}
    (hfile : x'.files file = x.files file) (chain : String) (forceFull : Bool) :
    Parts s s' reply (publish s x chain file forceFull : Action α τ Unit)
      (publish s' x' chain file forceFull) := by
  have hread : readWhitelist x'.files file = readWhitelist x.files file := by
    unfold readWhitelist
    rw [hfile]
  unfold publish
  rw [Settings.topics_eq h, Settings.publishTimeout_eq h, hx.now, hread,
    ← openStore_eq h hs hs' hx.database hx.certificates]
  refine .bind (.require _) fun _ => .bind (.require _) fun items => ?_
  refine .bind (.report rfl) fun _ => .bind openStore_quiet fun store => ?_
  have hschema := askStore_quiet (τ := τ) DatabaseStore.events_ensureSchema_quiet store
  refine .bind hschema fun answer => ?_
  obtain ⟨_, store⟩ := answer
  refine openBroker_parts hreply hreply' fun broker => .bind (runCycle_quiet _ _ _) fun _ => ?_
  exact .bind (.print _) fun _ => .print _

end Command

/-! ## Runs of the program -/

namespace Program

open Command (Action Parting Parts Progress Remark SameOutside Surroundings brokerRemark)
open CommandLine (Invocation)

variable {α τ : Type} {i i' : Invocation} {x x' : Surroundings α τ} {s s' : Settings}

/--
Two runs of one command that find the same outside, under settings which are accepted and differ in
the passwords of their URLs only.
-/
structure Twins (i i' : Invocation) (x x' : Surroundings α τ) (s s' : Settings) : Prop where
  settings : Settings.resolve x.files i.settingsFile i.overrides = .ok s
  settings' : Settings.resolve x'.files i'.settingsFile i'.overrides = .ok s'
  passwords : s.SameButPasswords s'
  subcommand : i'.subcommand = i.subcommand
  certificates : i'.acceptsInvalidCertificates = i.acceptsInvalidCertificates
  file : ∀ chain file forceFull, i.subcommand = .publish chain file forceFull →
    x'.files file = x.files file
  database : x'.database = x.database
  broker : x'.broker s'.brokerUrl = x.broker s.brokerUrl
  deliveries : x'.deliveries = x.deliveries
  ending : x'.ending = x.ending
  now : x'.now = x.now

variable [Server α] [Transport τ]

/-- **Twins part at their brokers**, if they come to them. -/
theorem Twins.invoke_parts (h : Twins i i' x x' s s') :
    Parts s s' (x.broker s.brokerUrl) (invoke i x) (invoke i' x') := by
  have hs := Settings.check_of_resolve h.settings
  have hs' := Settings.check_of_resolve h.settings'
  have hx : SameOutside { x with acceptsInvalidCertificates := i.acceptsInvalidCertificates }
      { x' with acceptsInvalidCertificates := i'.acceptsInvalidCertificates } :=
    ⟨h.database, h.deliveries, h.ending, h.now, h.certificates⟩
  unfold invoke
  simp only [h.settings, h.settings', Command.require, pure_bind, h.subcommand,
    ← Settings.describe_eq h.passwords]
  refine .bind (.report rfl) fun _ => ?_
  cases hsubcommand : i.subcommand with
  | publish chain file forceFull =>
    exact Command.publish_parts h.passwords hs hs' hx rfl h.broker (h.file _ _ _ hsubcommand) _ _
  | latest chain => exact Command.latest_parts h.passwords hs hs' hx chain
  | initSchema => exact Command.initSchema_parts h.passwords hs hs' hx
  | watch chain wish => exact Command.watch_parts h.passwords hx rfl h.broker chain wish

/-- The end of actions that came to something and left something behind. -/
def concluded : Except Failure Unit × Progress α τ → Conclusion α τ
  | (.ok (), progress) => ⟨0, "", progress⟩
  | (.error f, progress) => ⟨1, f.report, progress⟩

omit [Server α] [Transport τ] in
theorem progress_concluded (r : Except Failure Unit) (q : Progress α τ) :
    (concluded (r, q)).progress = q := by
  cases r <;> rfl

omit [Server α] [Transport τ] in
theorem conclude_eq {a : Action α τ Unit} {r : Except Failure Unit} {q : Progress α τ}
    (h : a.run .none = (r, q)) : conclude a = concluded (r, q) := by
  unfold conclude
  rw [h]
  cases r <;> rfl

section Shown

variable {c c' : Conclusion α τ} {before after : List Remark}

omit [Server α] [Transport τ]

/-- Runs that part at their brokers print the same. -/
theorem output_eq (hc : c.progress.remarks = before ++ brokerRemark s :: after)
    (hc' : c'.progress.remarks = before ++ brokerRemark s' :: after) : c.output = c'.output := by
  unfold Conclusion.output
  rw [hc, hc', List.map_append, List.map_append]
  rfl

/-- Runs that part at their brokers log the same if the URLs of those are the same. -/
theorem transcript_eq_iff (hc : c.progress.remarks = before ++ brokerRemark s :: after)
    (hc' : c'.progress.remarks = before ++ brokerRemark s' :: after) :
    (∀ filter, c.transcript filter = c'.transcript filter) ↔ s.brokerUrl = s'.brokerUrl := by
  constructor
  · intro h
    have hlines := h "trace"
    unfold Conclusion.transcript at hlines
    rw [hc, hc', List.filterMap_append, List.filterMap_append] at hlines
    have hline := (List.cons.inj (List.append_cancel_left hlines)).1
    refine (String.append_right_inj "Connecting to NATS at ").mp ?_
    exact (String.append_right_inj ("INFO" ++ " ")).mp hline
  · intro h filter
    unfold Conclusion.transcript
    rw [hc, hc', brokerRemark, brokerRemark, h]

theorem filter_isQuiet_eq (hc : c.progress.remarks = before ++ brokerRemark s :: after)
    (hc' : c'.progress.remarks = before ++ brokerRemark s' :: after) :
    c.progress.remarks.filter Remark.isQuiet = c'.progress.remarks.filter Remark.isQuiet := by
  rw [hc, hc', List.filter_append, List.filter_append]
  rfl

theorem brokerRemark_mem (hc : c.progress.remarks = before ++ brokerRemark s :: after) :
    brokerRemark s ∈ c.progress.remarks := by
  rw [hc]
  exact List.mem_append_right _ List.mem_cons_self

end Shown

/--
**What two runs show, and where they differ.** The settings are described alike, the runs end alike
and print the same, and all they log but the opening of their brokers is the same. The logs are the
same at every level if the URLs of the brokers are or no broker is opened; and what is told of a
failure is the same, unless those differ and a broker was opened in vain.
-/
theorem shows_passwords_iff (h : Twins i i' x x' s s') :
    let c := conclude (invoke i x)
    let c' := conclude (invoke i' x')
    s.describe = s'.describe ∧ c.exitCode = c'.exitCode ∧ c.output = c'.output
      ∧ c.progress.remarks.filter Remark.isQuiet = c'.progress.remarks.filter Remark.isQuiet
      ∧ ((∀ filter, c.transcript filter = c'.transcript filter)
        ↔ s.brokerUrl = s'.brokerUrl ∨ brokerRemark s ∉ c.progress.remarks)
      ∧ (c.complaint = c'.complaint
        ↔ s.brokerUrl = s'.brokerUrl ∨ brokerRemark s ∉ c.progress.remarks
          ∨ ∃ broker, x.broker s.brokerUrl = .ok broker) := by
  intro c c'
  refine ⟨Settings.describe_eq h.passwords, ?_⟩
  obtain ⟨r, r', q, rs, rs', hparting, hruns⟩ := h.invoke_parts .none
  have hc : c = concluded (r, { q with remarks := rs }) := conclude_eq (hruns []).1
  have hc' : c' = concluded (r', { q with remarks := rs' }) := conclude_eq (hruns []).2
  have hremarks : c.progress.remarks = rs := by rw [hc, progress_concluded]
  have hremarks' : c'.progress.remarks = rs' := by rw [hc', progress_concluded]
  cases hparting with
  | never hrs =>
    have hsame : c = c' := hc.trans hc'.symm
    have hnotMem : brokerRemark s ∉ c.progress.remarks :=
      hremarks ▸ Command.brokerRemark_notMem hrs
    rw [← hsame]
    exact ⟨rfl, rfl, rfl, iff_of_true (fun _ => rfl) (Or.inr hnotMem),
      iff_of_true rfl (Or.inr (Or.inl hnotMem))⟩
  | reached before hreply =>
    have hexit : c.exitCode = c'.exitCode := by
      rw [hc, hc']
      cases r <;> rfl
    have hcomplaint : c.complaint = c'.complaint := by
      rw [hc, hc']
      cases r <;> rfl
    refine ⟨hexit, output_eq hremarks hremarks', filter_isQuiet_eq hremarks hremarks', ?_, ?_⟩
    · rw [transcript_eq_iff hremarks hremarks']
      exact ⟨Or.inl, fun h => h.resolve_right (not_not_intro (brokerRemark_mem hremarks))⟩
    · exact iff_of_true hcomplaint (Or.inr (Or.inr ⟨_, hreply⟩))
  | refused before hreply =>
    refine ⟨?_, output_eq hremarks hremarks', filter_isQuiet_eq hremarks hremarks', ?_, ?_⟩
    · rw [hc, hc']
      rfl
    · rw [transcript_eq_iff hremarks hremarks']
      exact ⟨Or.inl, fun h => h.resolve_right (not_not_intro (brokerRemark_mem hremarks))⟩
    · rw [hc, hc']
      constructor
      · exact fun hreport => Or.inl (Settings.brokerUrl_eq_of_report hreport)
      · rintro (hurl | hnotMem | ⟨broker, hbroker⟩)
        · show (s.brokerFailure _).report = (s'.brokerFailure _).report
          rw [Settings.brokerFailure, Settings.brokerFailure, hurl]
        · rw [← hc] at hnotMem
          exact absurd (brokerRemark_mem hremarks) hnotMem
        · exact nomatch hreply.symm.trans hbroker

/-! ## Two passwords -/

namespace Shown

def overrides (password : String) : Settings.Overrides :=
  ⟨some ("postgres://u:" ++ password ++ "@h/db"), some ("nats://u:" ++ password ++ "@n"), none,
    none, none⟩

/-- A program that is to watch a chain. -/
def invocation (password : String) : Invocation :=
  ⟨none, overrides password, false, "info", .watch "base" none⟩

/-- Nothing outside but what answers for a broker. -/
def surroundings (reply : Except Failure Broker) : Surroundings Database.Script Broker where
  files := fun _ => .error .notFound
  database := fun _ => none
  broker := fun _ => reply
  deliveries := []
  ending := .closed
  now := ⟨0, 0⟩
  acceptsInvalidCertificates := false

def databaseUrl : Url :=
  ⟨"postgres".toList, some ⟨['u'], [], .name ['h'], none⟩, .rooted [['d', 'b']], none, none⟩

def brokerUrl : Url := ⟨"nats".toList, some ⟨['u'], [], .name ['n'], none⟩, .rooted [], none, none⟩

theorem twins (reply : Except Failure Broker) :
    Twins (invocation "a") (invocation "b") (surroundings reply) (surroundings reply)
      (Settings.default.override (overrides "a")) (Settings.default.override (overrides "b")) where
  settings := rfl
  settings' := rfl
  passwords := ⟨.some (Or.inr ⟨databaseUrl, ['a'], ['b'], by decide, by decide, rfl, rfl⟩),
    Or.inr ⟨brokerUrl, ['a'], ['b'], by decide, by decide, rfl, rfl⟩, rfl, rfl, rfl⟩
  subcommand := rfl
  certificates := rfl
  file := fun _ _ _ h => nomatch h
  database := rfl
  broker := rfl
  deliveries := rfl
  ending := rfl
  now := rfl

/-- Behind a broker that is reached, no failure tells a password. -/
theorem complaint_eq_reached :
    let c := conclude (invoke (invocation "a") (surroundings (.ok (.new 1048576))))
    let c' := conclude (invoke (invocation "b") (surroundings (.ok (.new 1048576))))
    c.output = c'.output ∧ c.complaint = c'.complaint := by
  obtain ⟨-, -, houtput, -, -, hcomplaint⟩ := shows_passwords_iff (twins (.ok (.new 1048576)))
  exact ⟨houtput, hcomplaint.mpr (Or.inr (Or.inr ⟨_, rfl⟩))⟩

/--
**The password of a broker is shown** in the log and, if the broker cannot be reached, in what is
told of the failure.
-/
theorem password_shown : ∃ (x : Surroundings Database.Script Broker) (s s' : Settings),
    Twins (invocation "a") (invocation "b") x x s s'
      ∧ "INFO Connecting to NATS at nats://u:a@n"
        ∈ (conclude (invoke (invocation "a") x)).transcript "info"
      ∧ "INFO Connecting to NATS at nats://u:a@n"
        ∉ (conclude (invoke (invocation "b") x)).transcript "info"
      ∧ (conclude (invoke (invocation "a") x)).complaint
        ≠ (conclude (invoke (invocation "b") x)).complaint := by
  refine ⟨_, _, _, twins (.error ⟨["refused"], false⟩), ?_, ?_, ?_⟩
  · decide
  · decide
  · decide

end Shown

end Program

end PoolFeed
