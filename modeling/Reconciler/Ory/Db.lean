import Mathlib.Data.List.Basic

/-!
# The database secret of Ory Hydra

`db.Update` (`pkg/reconciler/instances/ory/db/db.go`) compares the secret that holds the
credentials of Ory Hydra's database with the chart values, and returns the data to write over
it, or nothing when it already matches; `preReconcileAction.Run` (`ory/action.go`) writes that
data as the secret's `StringData` and rolls Hydra out.  The configuration is taken as parsed by
`NewDBConfig`, and the draws of `crypto/rand` are an input of the model (`RandomDraws`).

Every mode compares one DSN with the stored one (`Config.expectedDSN`), and the data it writes
holds that DSN again, so a second update is empty and the secret settles after one reconcile
(`update_overlay_update`, `preReconcileRun_settles`).  The stored `secretsSystem`,
`secretsCookie` and PostgreSQL password survive an update.  The replication password does not:
`updatePostgresqlConfig` takes it over from the secret only while the *password* of the
configuration is empty, so once a password is known, every rewrite of the secret draws a new
replication password (`update_regenerates_replicationPassword`).
-/

namespace Reconciler.Ory

/-! ## Secrets and random draws -/

/-- The data of a secret; a key is read at its first entry. -/
abbrev SecretData := List (String × String)

/-- `string(secret.Data[key])`: the value of the key, or the empty string. -/
def SecretData.get (d : SecretData) (key : String) : String :=
  (d.lookup key).getD ""

/-- The secret after `preReconcileAction.Run` writes `data` as its `StringData`: the keys of
`data` take the place of the stored ones. -/
def SecretData.overlay (secret data : SecretData) : SecretData :=
  data ++ secret

/-- The draws of `crypto/rand`: the `n`-th call of `generateRandomString length` from here on
returns `rnd n length`, which is the empty string when the read fails. -/
abbrev RandomDraws := Nat → Nat → String

/-- `generateRandomString`: the next draw. -/
def generateRandomString (length : Nat) (rnd : RandomDraws) : String × RandomDraws :=
  (rnd 0 length, fun n => rnd (n + 1))

/-- `if x == "" { x = generateRandomString(length) }`, which the source writes four times. -/
def orRandom (value : String) (length : Nat) (rnd : RandomDraws) : String × RandomDraws :=
  if value = "" then generateRandomString length rnd else (value, rnd)

/-! ## The configuration -/

/-- `PostgresCfg`: the values of the PostgreSQL chart. -/
structure PostgresCfg where
  user : String
  dbName : String
  password : String
  replicationPassword : String
  deriving DecidableEq, Repr

/-- `Gcloud`: Google Cloud SQL and its service account. -/
structure Gcloud where
  enabled : Bool
  saJson : String
  deriving DecidableEq, Repr

/-- `Persistence`: the persistence of Ory Hydra; `postgresqlFlag` is `PostgresqlFlag.Enabled`. -/
structure Persistence where
  enabled : Bool
  postgresqlFlag : Bool
  gcloud : Gcloud
  dbType : String
  password : String
  username : String
  url : String
  dbName : String
  secretsSystem : String
  secretsCookie : String
  deriving DecidableEq, Repr

/-- `Config`, with `Global.PostgresCfg` and `Global.Ory.Hydra.Persistence` as its fields. -/
structure Config where
  postgresCfg : PostgresCfg
  persistence : Persistence
  deriving DecidableEq, Repr

def dsnOpts : String := "sslmode=disable&max_conn_lifetime=10s"

def mysqlDsnOpts : String := "parseTime=true&max_conn_lifetime=10s"

def postgresURL : String := "ory-postgresql.kyma-system.svc.cluster.local:5432"

def inMemoryURL : String := "sqlite://file::memory:?cache=shared&busy_timeout=5000&_fk=true"

/-- `fmt.Sprintf(dsnTemplate, ...)`, with `dsnTemplate = "%s://%s:%s@%s/%s?%s"`. -/
def formatDSN (scheme user password url dbName opts : String) : String :=
  scheme ++ "://" ++ user ++ ":" ++ password ++ "@" ++ url ++ "/" ++ dbName ++ "?" ++ opts

namespace Config

variable (c : Config)

/-- The secrets of Hydra, which `db.Update` and `prepareStringData` set before anything else. -/
def setSecrets (secretsSystem secretsCookie : String) : Config :=
  { c with persistence.secretsSystem := secretsSystem,
           persistence.secretsCookie := secretsCookie }

def preparePostgresDSN : String :=
  formatDSN "postgres" c.postgresCfg.user c.postgresCfg.password postgresURL
    c.postgresCfg.dbName dsnOpts

def prepareMySQLDSN : String :=
  formatDSN c.persistence.dbType c.persistence.username c.persistence.password
    ("tcp(" ++ c.persistence.url ++ ")") c.persistence.dbName mysqlDsnOpts

def prepareGenericDSN : String :=
  formatDSN c.persistence.dbType c.persistence.username c.persistence.password
    c.persistence.url c.persistence.dbName dsnOpts

def generateSecretDataMemory : SecretData :=
  [("secretsSystem", c.persistence.secretsSystem),
   ("secretsCookie", c.persistence.secretsCookie),
   ("dsn", inMemoryURL)]

/-- `generateSecretDataPostgresql` draws the passwords that are still empty. -/
def generateSecretDataPostgresql (rnd : RandomDraws) : SecretData × RandomDraws :=
  let password := orRandom c.postgresCfg.password 10 rnd
  let replicationPassword := orRandom c.postgresCfg.replicationPassword 10 password.2
  let c : Config := { c with postgresCfg.password := password.1,
                             postgresCfg.replicationPassword := replicationPassword.1 }
  ([("secretsSystem", c.persistence.secretsSystem),
    ("secretsCookie", c.persistence.secretsCookie),
    ("dsn", c.preparePostgresDSN),
    ("postgresql-password", c.postgresCfg.password),
    ("postgresql-replication-password", c.postgresCfg.replicationPassword)],
   replicationPassword.2)

def generateSecretDataMysql : SecretData :=
  [("secretsSystem", c.persistence.secretsSystem),
   ("secretsCookie", c.persistence.secretsCookie),
   ("dsn", c.prepareMySQLDSN),
   ("dbPassword", c.persistence.password)]

def generateSecretDataGcloud : SecretData :=
  [("secretsSystem", c.persistence.secretsSystem),
   ("secretsCookie", c.persistence.secretsCookie),
   ("gcp-sa.json", c.persistence.gcloud.saJson),
   ("dsn", c.prepareGenericDSN)]

def generateSecretDataGeneric : SecretData :=
  [("secretsSystem", c.persistence.secretsSystem),
   ("secretsCookie", c.persistence.secretsCookie),
   ("dsn", c.prepareGenericDSN),
   ("dbPassword", c.persistence.password)]

def updateMemoryConfig (secret : SecretData) : SecretData :=
  if secret.get "dsn" = inMemoryURL then [] else c.generateSecretDataMemory

/-- The first half of `updatePostgresqlConfig`: the passwords it takes over from the secret.
The second guard reads `Password`, where the value it copies is `ReplicationPassword`. -/
def copySecretPasswords (secret : SecretData) : Config :=
  let secretPostgresqlPassword := secret.get "postgresql-password"
  let c : Config :=
    if secretPostgresqlPassword ≠ "" ∧ c.postgresCfg.password = "" then
      { c with postgresCfg.password := secretPostgresqlPassword }
    else c
  let secretPostgresqlReplicationPassword := secret.get "postgresql-replication-password"
  if secretPostgresqlReplicationPassword ≠ "" ∧ c.postgresCfg.password = "" then
    { c with postgresCfg.replicationPassword := secretPostgresqlReplicationPassword }
  else c

def updatePostgresqlConfig (secret : SecretData) (rnd : RandomDraws) : SecretData × RandomDraws :=
  let c := c.copySecretPasswords secret
  if c.preparePostgresDSN ≠ secret.get "dsn" then c.generateSecretDataPostgresql rnd
  else ([], rnd)

/-- `updateSecretData`: the five modes of persistence. -/
def updateSecretData (secret : SecretData) (rnd : RandomDraws) : SecretData × RandomDraws :=
  let dsn := secret.get "dsn"
  if !c.persistence.enabled then (c.updateMemoryConfig secret, rnd)
  else if c.persistence.postgresqlFlag then c.updatePostgresqlConfig secret rnd
  else if c.persistence.dbType = "mysql" then
    (if c.prepareMySQLDSN ≠ dsn then c.generateSecretDataMysql else [], rnd)
  else if c.persistence.gcloud.enabled then
    (if c.prepareGenericDSN ≠ dsn then c.generateSecretDataGcloud else [], rnd)
  else (if c.prepareGenericDSN ≠ dsn then c.generateSecretDataGeneric else [], rnd)

/-- `prepareStringData`, the data of a new secret (`db.Get`). -/
def prepareStringData (rnd : RandomDraws) : SecretData × RandomDraws :=
  let secretsSystem := generateRandomString 32 rnd
  let secretsCookie := generateRandomString 32 secretsSystem.2
  let c := c.setSecrets secretsSystem.1 secretsCookie.1
  let rnd := secretsCookie.2
  if c.persistence.enabled then
    if c.persistence.postgresqlFlag then c.generateSecretDataPostgresql rnd
    else if c.persistence.dbType = "mysql" then (c.generateSecretDataMysql, rnd)
    else if c.persistence.gcloud.enabled then (c.generateSecretDataGcloud, rnd)
    else (c.generateSecretDataGeneric, rnd)
  else (c.generateSecretDataMemory, rnd)

end Config

/-- `db.Update`: the secrets of Hydra come from the stored secret, or are drawn anew. -/
def update (cfg : Config) (secret : SecretData) (rnd : RandomDraws) : SecretData × RandomDraws :=
  let secretsSystem := orRandom (secret.get "secretsSystem") 32 rnd
  let secretsCookie := orRandom (secret.get "secretsCookie") 32 secretsSystem.2
  (cfg.setSecrets secretsSystem.1 secretsCookie.1).updateSecretData secret secretsCookie.2

/-- What the database part of `preReconcileAction.Run` keeps: the stored secret, if any, and
the package variable `rolloutHydra`. -/
structure ActionState where
  secret : Option SecretData
  rolloutHydra : Bool

/-- The database part of `preReconcileAction.Run`: it creates the secret from `db.Get` when
there is none, and otherwise writes what `db.Update` returns over it, if anything. -/
def preReconcile (cfg : Config) (s : ActionState) (rnd : RandomDraws) : ActionState :=
  match s.secret with
  | none => { s with secret := some (cfg.prepareStringData rnd).1 }
  | some secret =>
    let newSecretData := (update cfg secret rnd).1
    if newSecretData.length = 0 then { s with rolloutHydra := false }
    else { secret := some (secret.overlay newSecretData), rolloutHydra := true }

/-- Reconciles with one configuration, once per element of the draws. -/
def preReconcileRun (cfg : Config) (s : ActionState) (draws : List RandomDraws) : ActionState :=
  draws.foldl (preReconcile cfg) s

/-! ## Reading what an update writes -/

namespace SecretData

@[simp] theorem overlay_nil (secret : SecretData) : secret.overlay [] = secret := rfl

theorem get_overlay_of_lookup {secret data : SecretData} {key value : String}
    (h : data.lookup key = some value) : (secret.overlay data).get key = value := by
  simp [overlay, get, List.lookup_append, h]

end SecretData

theorem orRandom_of_ne {value : String} (h : value ≠ "") (length : Nat) (rnd : RandomDraws) :
    orRandom value length rnd = (value, rnd) := by
  simp [orRandom, h]

/-- Draws that never yield `value` keep that property after one more draw. -/
theorem orRandom_snd_ne {rnd : RandomDraws} {value : String}
    (h : ∀ n length, rnd n length ≠ value) (v : String) (length : Nat) :
    ∀ n l, (orRandom v length rnd).2 n l ≠ value := by
  unfold orRandom generateRandomString
  split
  · exact fun n l => h (n + 1) l
  · exact h

namespace Config

variable (c : Config)

@[simp] theorem setSecrets_postgresCfg (a b : String) : (c.setSecrets a b).postgresCfg = c.postgresCfg :=
  rfl

@[simp] theorem setSecrets_secretsSystem (a b : String) :
    (c.setSecrets a b).persistence.secretsSystem = a := rfl

@[simp] theorem setSecrets_secretsCookie (a b : String) :
    (c.setSecrets a b).persistence.secretsCookie = b := rfl

theorem generateSecretDataPostgresql_fst (rnd : RandomDraws) :
    (c.generateSecretDataPostgresql rnd).1 =
      let password := orRandom c.postgresCfg.password 10 rnd
      [("secretsSystem", c.persistence.secretsSystem),
       ("secretsCookie", c.persistence.secretsCookie),
       ("dsn", formatDSN "postgres" c.postgresCfg.user password.1 postgresURL
          c.postgresCfg.dbName dsnOpts),
       ("postgresql-password", password.1),
       ("postgresql-replication-password",
          (orRandom c.postgresCfg.replicationPassword 10 password.2).1)] :=
  rfl

theorem copySecretPasswords_password (secret : SecretData) :
    (c.copySecretPasswords secret).postgresCfg.password =
      if secret.get "postgresql-password" ≠ "" ∧ c.postgresCfg.password = "" then
        secret.get "postgresql-password"
      else c.postgresCfg.password := by
  by_cases h : secret.get "postgresql-password" ≠ "" ∧ c.postgresCfg.password = ""
  · simp only [copySecretPasswords, if_pos h]
    split_ifs <;> rfl
  · simp only [copySecretPasswords, if_neg h]
    split_ifs <;> rfl

theorem copySecretPasswords_replicationPassword (secret : SecretData) :
    (c.copySecretPasswords secret).postgresCfg.replicationPassword =
      if secret.get "postgresql-replication-password" ≠ "" ∧
          (c.copySecretPasswords secret).postgresCfg.password = "" then
        secret.get "postgresql-replication-password"
      else c.postgresCfg.replicationPassword := by
  rw [copySecretPasswords_password]
  by_cases h : secret.get "postgresql-password" ≠ "" ∧ c.postgresCfg.password = ""
  · simp only [copySecretPasswords, if_pos h]
    split_ifs <;> rfl
  · simp only [copySecretPasswords, if_neg h]
    split_ifs <;> rfl

theorem copySecretPasswords_postgresCfg_other (secret : SecretData) :
    (c.copySecretPasswords secret).postgresCfg.user = c.postgresCfg.user ∧
      (c.copySecretPasswords secret).postgresCfg.dbName = c.postgresCfg.dbName ∧
      (c.copySecretPasswords secret).persistence = c.persistence := by
  simp only [copySecretPasswords]
  split_ifs <;> exact ⟨rfl, rfl, rfl⟩

@[simp] theorem copySecretPasswords_user (secret : SecretData) :
    (c.copySecretPasswords secret).postgresCfg.user = c.postgresCfg.user :=
  (c.copySecretPasswords_postgresCfg_other secret).1

@[simp] theorem copySecretPasswords_dbName (secret : SecretData) :
    (c.copySecretPasswords secret).postgresCfg.dbName = c.postgresCfg.dbName :=
  (c.copySecretPasswords_postgresCfg_other secret).2.1

@[simp] theorem copySecretPasswords_persistence (secret : SecretData) :
    (c.copySecretPasswords secret).persistence = c.persistence :=
  (c.copySecretPasswords_postgresCfg_other secret).2.2

/-! ## What an update compares -/

/-- The DSN that `updateSecretData` compares with the stored one, in the mode of the
configuration: the PostgreSQL DSN is formed after the passwords are taken over from the secret. -/
def expectedDSN (secret : SecretData) : String :=
  if !c.persistence.enabled then inMemoryURL
  else if c.persistence.postgresqlFlag then (c.copySecretPasswords secret).preparePostgresDSN
  else if c.persistence.dbType = "mysql" then c.prepareMySQLDSN
  else c.prepareGenericDSN

/-- The stored secret matches the configuration: it holds the DSN the configuration asks for. -/
def Settled (secret : SecretData) : Prop :=
  secret.get "dsn" = c.expectedDSN secret

instance (secret : SecretData) : Decidable (c.Settled secret) :=
  inferInstanceAs (Decidable (_ = _))

/-- The secrets of Hydra are not part of any DSN: `setSecrets` changes no field that
`expectedDSN` reads. -/
@[simp] theorem settled_setSecrets (a b : String) (secret : SecretData) :
    (c.setSecrets a b).Settled secret ↔ c.Settled secret := by
  have hdsn : ((c.setSecrets a b).copySecretPasswords secret).preparePostgresDSN =
      (c.copySecretPasswords secret).preparePostgresDSN := by
    simp only [preparePostgresDSN, copySecretPasswords_user, copySecretPasswords_dbName,
      copySecretPasswords_password, setSecrets_postgresCfg]
    rfl
  unfold Settled expectedDSN
  rw [hdsn]
  rfl

/-- The data the mode of the configuration writes when the secret does not match. -/
def writtenData (secret : SecretData) (rnd : RandomDraws) : SecretData :=
  if !c.persistence.enabled then c.generateSecretDataMemory
  else if c.persistence.postgresqlFlag then
    ((c.copySecretPasswords secret).generateSecretDataPostgresql rnd).1
  else if c.persistence.dbType = "mysql" then c.generateSecretDataMysql
  else if c.persistence.gcloud.enabled then c.generateSecretDataGcloud
  else c.generateSecretDataGeneric

/-- A mode that compares `dsn` with the stored DSN writes exactly when they differ. -/
theorem ite_ne_eq {dsn stored : String} {data : SecretData} :
    (if dsn ≠ stored then data else []) = if stored = dsn then [] else data := by
  by_cases h : stored = dsn
  · simp [h]
  · simp [h, Ne.symm h]

/-- **`updateSecretData` writes the data of its mode exactly when the secret does not match.** -/
theorem updateSecretData_fst (secret : SecretData) (rnd : RandomDraws) :
    (c.updateSecretData secret rnd).1 =
      if c.Settled secret then [] else c.writtenData secret rnd := by
  unfold updateSecretData Settled expectedDSN writtenData
  by_cases hen : c.persistence.enabled = false
  · simp only [hen, Bool.not_false, ↓reduceIte, updateMemoryConfig]
  simp only [Bool.not_eq_false] at hen
  by_cases hpg : c.persistence.postgresqlFlag = true
  · simp only [hen, hpg, Bool.not_true, Bool.false_eq_true, ↓reduceIte, updatePostgresqlConfig]
    by_cases h : secret.get "dsn" = (c.copySecretPasswords secret).preparePostgresDSN
    · simp [h]
    · simp [h, Ne.symm h]
  -- the three modes with a DSN of their own compare it with the stored one
  by_cases hmysql : c.persistence.dbType = "mysql"
  · simp only [hen, hpg, Bool.not_true, Bool.false_eq_true, hmysql, ↓reduceIte, ite_ne_eq]
  by_cases hgcloud : c.persistence.gcloud.enabled = true
  all_goals simp only [hen, hpg, hgcloud, Bool.not_true, Bool.false_eq_true, hmysql, ↓reduceIte,
    ite_ne_eq]

theorem writtenData_ne_nil (secret : SecretData) (rnd : RandomDraws) :
    c.writtenData secret rnd ≠ [] := by
  unfold writtenData
  split_ifs <;> simp [generateSecretDataMemory, generateSecretDataPostgresql_fst,
    generateSecretDataMysql, generateSecretDataGcloud, generateSecretDataGeneric]

/-- **An update writes exactly when the secret does not match.** -/
theorem updateSecretData_eq_nil_iff (secret : SecretData) (rnd : RandomDraws) :
    (c.updateSecretData secret rnd).1 = [] ↔ c.Settled secret := by
  rw [updateSecretData_fst]
  split_ifs with h
  · exact iff_of_true rfl h
  · exact iff_of_false (c.writtenData_ne_nil secret rnd) h

@[simp] theorem SecretData.get_overlay (secret data : SecretData) (key : String) :
    (secret.overlay data).get key = ((data.lookup key).or (secret.lookup key)).getD "" := by
  simp [SecretData.overlay, SecretData.get, List.lookup_append]

/-- In PostgreSQL mode, a secret matches the configuration when it holds the DSN of the password
it holds, and that password is the configuration's own whenever the configuration sets one. -/
theorem settled_of_postgresql (hmode : c.persistence.enabled = true ∧ c.persistence.postgresqlFlag = true)
    {secret : SecretData} (password : String)
    (hpassword : secret.get "postgresql-password" = password)
    (hown : c.postgresCfg.password ≠ "" → password = c.postgresCfg.password)
    (hdsn : secret.get "dsn" =
      formatDSN "postgres" c.postgresCfg.user password postgresURL c.postgresCfg.dbName dsnOpts) :
    c.Settled secret := by
  -- the password taken over from the secret is `password` again
  have hcopy : (c.copySecretPasswords secret).postgresCfg.password = password := by
    rw [copySecretPasswords_password, hpassword]
    by_cases hempty : c.postgresCfg.password = ""
    · by_cases hp : password = "" <;> simp [hempty, hp]
    · simp [hempty, hown hempty]
  simp [Settled, expectedDSN, hmode, preparePostgresDSN, hcopy, hdsn]

/-- What `generateSecretDataPostgresql` writes for a configuration that keeps the user, the
database and a set password of `c` matches `c`. -/
theorem settled_overlay_generateSecretDataPostgresql
    (hmode : c.persistence.enabled = true ∧ c.persistence.postgresqlFlag = true) {c' : Config}
    (huser : c'.postgresCfg.user = c.postgresCfg.user)
    (hdb : c'.postgresCfg.dbName = c.postgresCfg.dbName)
    (hown : c.postgresCfg.password ≠ "" → c'.postgresCfg.password = c.postgresCfg.password)
    (secret : SecretData) (rnd : RandomDraws) :
    c.Settled (secret.overlay (c'.generateSecretDataPostgresql rnd).1) := by
  refine c.settled_of_postgresql hmode (orRandom c'.postgresCfg.password 10 rnd).1 ?_ ?_ ?_
  · simp [generateSecretDataPostgresql_fst, List.lookup_cons]
  · intro h
    rw [hown h, orRandom_of_ne h]
  · simp [generateSecretDataPostgresql_fst, List.lookup_cons, huser, hdb]

/-- **What an update writes matches the configuration.** -/
theorem settled_overlay_writtenData (secret : SecretData) (rnd : RandomDraws) :
    c.Settled (secret.overlay (c.writtenData secret rnd)) := by
  by_cases hen : c.persistence.enabled = false
  · simp [writtenData, Settled, expectedDSN, hen, generateSecretDataMemory, List.lookup_cons]
  simp only [Bool.not_eq_false] at hen
  by_cases hpg : c.persistence.postgresqlFlag = true
  · -- the passwords the update takes over keep a password the configuration sets
    have hown : c.postgresCfg.password ≠ "" →
        (c.copySecretPasswords secret).postgresCfg.password = c.postgresCfg.password := by
      intro h
      simp [copySecretPasswords_password, h]
    simpa [writtenData, hen, hpg] using
      c.settled_overlay_generateSecretDataPostgresql ⟨hen, hpg⟩ (copySecretPasswords_user c secret)
        (copySecretPasswords_dbName c secret) hown secret rnd
  simp only [Bool.not_eq_true] at hpg
  by_cases hmysql : c.persistence.dbType = "mysql"
  · simp [writtenData, Settled, expectedDSN, hen, hpg, hmysql, generateSecretDataMysql,
      List.lookup_cons]
  by_cases hgcloud : c.persistence.gcloud.enabled = true
  · simp [writtenData, Settled, expectedDSN, hen, hpg, hmysql, hgcloud, generateSecretDataGcloud,
      List.lookup_cons]
  · simp [writtenData, Settled, expectedDSN, hen, hpg, hmysql, hgcloud, generateSecretDataGeneric,
      List.lookup_cons]

/-- Every mode writes the secrets of Hydra as the configuration holds them. -/
theorem writtenData_secrets (secret : SecretData) (rnd : RandomDraws) :
    (c.writtenData secret rnd).lookup "secretsSystem" = some c.persistence.secretsSystem ∧
      (c.writtenData secret rnd).lookup "secretsCookie" = some c.persistence.secretsCookie := by
  unfold writtenData
  split_ifs <;> simp [generateSecretDataMemory, generateSecretDataPostgresql_fst,
    generateSecretDataMysql, generateSecretDataGcloud, generateSecretDataGeneric, List.lookup_cons]

theorem writtenData_postgresql
    (hmode : c.persistence.enabled = true ∧ c.persistence.postgresqlFlag = true)
    (secret : SecretData) (rnd : RandomDraws) :
    c.writtenData secret rnd = ((c.copySecretPasswords secret).generateSecretDataPostgresql rnd).1 := by
  simp [writtenData, hmode]

/-- Once a password is known, the replication password written is a fresh draw: the guard that
would take it over from the secret reads the password. -/
theorem writtenData_replicationPassword
    (hmode : c.persistence.enabled = true ∧ c.persistence.postgresqlFlag = true)
    (hunset : c.postgresCfg.replicationPassword = "") {secret : SecretData}
    (hpassword : c.postgresCfg.password ≠ "" ∨ secret.get "postgresql-password" ≠ "")
    (rnd : RandomDraws) :
    (c.writtenData secret rnd).lookup "postgresql-replication-password" =
      some ((orRandom (c.copySecretPasswords secret).postgresCfg.password 10 rnd).2 0 10) := by
  have hknown : (c.copySecretPasswords secret).postgresCfg.password ≠ "" := by
    rw [copySecretPasswords_password]
    split_ifs with h
    · exact h.1
    · rcases hpassword with hown | hstored
      · exact hown
      · exact fun hempty => h ⟨hstored, hempty⟩
  have hrep : (c.copySecretPasswords secret).postgresCfg.replicationPassword = "" := by
    rw [copySecretPasswords_replicationPassword, if_neg (fun h => hknown h.2), hunset]
  simp [writtenData_postgresql c hmode, generateSecretDataPostgresql_fst, List.lookup_cons, hrep,
    orRandom, generateRandomString]

@[simp] theorem copySecretPasswords_nil : c.copySecretPasswords [] = c := by
  simp [copySecretPasswords, SecretData.get]

/-- A new secret holds what an update writes over an empty one. -/
theorem prepareStringData_fst (rnd : RandomDraws) :
    (c.prepareStringData rnd).1 =
      let secretsSystem := generateRandomString 32 rnd
      let secretsCookie := generateRandomString 32 secretsSystem.2
      (c.setSecrets secretsSystem.1 secretsCookie.1).writtenData [] secretsCookie.2 := by
  simp only [prepareStringData, writtenData, copySecretPasswords_nil]
  split_ifs <;> simp_all

end Config

@[simp] theorem SecretData.nil_overlay (data : SecretData) : SecretData.overlay [] data = data :=
  List.append_nil data

/-! ## `db.Update` -/

/-- **`db.Update` writes the data of the mode exactly when the secret does not match.** -/
theorem update_fst (cfg : Config) (secret : SecretData) (rnd : RandomDraws) :
    (update cfg secret rnd).1 =
      let secretsSystem := orRandom (secret.get "secretsSystem") 32 rnd
      let secretsCookie := orRandom (secret.get "secretsCookie") 32 secretsSystem.2
      if cfg.Settled secret then []
      else (cfg.setSecrets secretsSystem.1 secretsCookie.1).writtenData secret secretsCookie.2 := by
  simp only [update, Config.updateSecretData_fst, Config.settled_setSecrets]

theorem update_eq_nil_iff (cfg : Config) (secret : SecretData) (rnd : RandomDraws) :
    (update cfg secret rnd).1 = [] ↔ cfg.Settled secret := by
  rw [update, Config.updateSecretData_eq_nil_iff, Config.settled_setSecrets]

/-- The secret after an update matches the configuration, whether the update wrote or not. -/
theorem settled_overlay_update (cfg : Config) (secret : SecretData) (rnd : RandomDraws) :
    cfg.Settled (secret.overlay (update cfg secret rnd).1) := by
  rw [update_fst]
  split_ifs with h
  · simpa using h
  · exact (Config.settled_setSecrets ..).mp (Config.settled_overlay_writtenData ..)

/-- **An update leaves nothing to update**: whatever the draws, `db.Update` on the secret it has
written returns no data. -/
theorem update_overlay_update (cfg : Config) (secret : SecretData) (rnd rnd' : RandomDraws) :
    (update cfg (secret.overlay (update cfg secret rnd).1) rnd').1 = [] :=
  (update_eq_nil_iff ..).mpr (settled_overlay_update cfg secret rnd)

/-- **An update keeps the secrets of Hydra** that the stored secret holds. -/
theorem update_keeps_secrets (cfg : Config) (secret : SecretData) (rnd : RandomDraws) :
    (secret.get "secretsSystem" ≠ "" →
        (secret.overlay (update cfg secret rnd).1).get "secretsSystem" = secret.get "secretsSystem") ∧
      (secret.get "secretsCookie" ≠ "" →
        (secret.overlay (update cfg secret rnd).1).get "secretsCookie" =
          secret.get "secretsCookie") := by
  rw [update_fst]
  split_ifs
  · simp
  · obtain ⟨hsystem, hcookie⟩ := Config.writtenData_secrets ..
    refine ⟨fun h => ?_, fun h => ?_⟩
    · rw [SecretData.get_overlay_of_lookup hsystem, Config.setSecrets_secretsSystem,
        orRandom_of_ne h]
    · rw [SecretData.get_overlay_of_lookup hcookie, Config.setSecrets_secretsCookie,
        orRandom_of_ne h]

/-- **In PostgreSQL mode an update keeps the stored password** unless the configuration sets
one. -/
theorem update_keeps_postgresqlPassword (cfg : Config) (secret : SecretData) (rnd : RandomDraws)
    (hmode : cfg.persistence.enabled = true ∧ cfg.persistence.postgresqlFlag = true)
    (hunset : cfg.postgresCfg.password = "") (hstored : secret.get "postgresql-password" ≠ "") :
    (secret.overlay (update cfg secret rnd).1).get "postgresql-password" =
      secret.get "postgresql-password" := by
  rw [update_fst]
  split_ifs
  · simp
  · -- the password taken over from the secret is written back as it is
    have hcopy : ∀ a b, ((cfg.setSecrets a b).copySecretPasswords secret).postgresCfg.password =
        secret.get "postgresql-password" := by
      simp [Config.copySecretPasswords_password, hunset, hstored]
    rw [Config.writtenData_postgresql _ (by simpa [Config.setSecrets] using hmode)]
    simp [Config.generateSecretDataPostgresql_fst, List.lookup_cons, hcopy, orRandom_of_ne hstored]

/-- **An update replaces a stored replication password** whenever it writes in PostgreSQL mode
and a password is known, from the configuration or from the secret, while the configuration
sets no replication password: what it writes is a fresh draw, so with draws that never yield the
stored value, the secret loses it. -/
theorem update_regenerates_replicationPassword (cfg : Config) (secret : SecretData)
    (rnd : RandomDraws) (hmode : cfg.persistence.enabled = true ∧ cfg.persistence.postgresqlFlag = true)
    (hunset : cfg.postgresCfg.replicationPassword = "")
    (hpassword : cfg.postgresCfg.password ≠ "" ∨ secret.get "postgresql-password" ≠ "")
    (hwrite : (update cfg secret rnd).1 ≠ [])
    (hfresh : ∀ n length, rnd n length ≠ secret.get "postgresql-replication-password") :
    (secret.overlay (update cfg secret rnd).1).get "postgresql-replication-password" ≠
      secret.get "postgresql-replication-password" := by
  have hsettled : ¬ cfg.Settled secret := fun h => hwrite ((update_eq_nil_iff ..).mpr h)
  simp only [update_fst, if_neg hsettled]
  -- the replication password comes from the draws left after the two secrets and the password
  rw [SecretData.get_overlay_of_lookup (Config.writtenData_replicationPassword _
    (by simpa [Config.setSecrets] using hmode) (by simpa using hunset) (by simpa using hpassword) _)]
  exact orRandom_snd_ne (orRandom_snd_ne (orRandom_snd_ne hfresh _ _) _ _) _ _ 0 10

/-- A PostgreSQL configuration of the user `hydra` and the database `db` that sets no password. -/
def postgresqlConfig : Config where
  postgresCfg := { user := "hydra", dbName := "db", password := "", replicationPassword := "" }
  persistence :=
    { enabled := true, postgresqlFlag := true, gcloud := { enabled := false, saJson := "" },
      dbType := "", password := "", username := "", url := "", dbName := "",
      secretsSystem := "", secretsCookie := "" }

/-- A secret written for the user `ory`, with both passwords of PostgreSQL. -/
def oryUserSecret : SecretData :=
  [("secretsSystem", "system"), ("secretsCookie", "cookie"),
   ("dsn", formatDSN "postgres" "ory" "stored" postgresURL "db" dsnOpts),
   ("postgresql-password", "stored"), ("postgresql-replication-password", "replica")]

/-- After the user is renamed to `hydra`, the update keeps the password `stored` but replaces
the replication password `replica` with a draw. -/
theorem update_regenerates_replicationPassword_after_rename :
    (oryUserSecret.overlay (update postgresqlConfig oryUserSecret fun _ _ => "fresh").1).get
        "postgresql-replication-password" ≠
      oryUserSecret.get "postgresql-replication-password" :=
  update_regenerates_replicationPassword postgresqlConfig oryUserSecret (fun _ _ => "fresh")
    ⟨rfl, rfl⟩ rfl (Or.inr (by decide)) (by decide) (fun _ _ => by decide)

/-! ## Reconciling the secret -/

/-- A reconcile with a secret that matches the configuration writes nothing and does not roll
Hydra out. -/
theorem preReconcile_of_settled {cfg : Config} {s : ActionState} {secret : SecretData}
    (hs : s.secret = some secret) (hsettled : cfg.Settled secret) (rnd : RandomDraws) :
    preReconcile cfg s rnd = { secret := some secret, rolloutHydra := false } := by
  have hnil : (update cfg secret rnd).1 = [] := (update_eq_nil_iff ..).mpr hsettled
  simp [preReconcile, hs, hnil]

theorem settled_prepareStringData (cfg : Config) (rnd : RandomDraws) :
    cfg.Settled (cfg.prepareStringData rnd).1 := by
  rw [Config.prepareStringData_fst, ← SecretData.nil_overlay (Config.writtenData ..),
    ← Config.settled_setSecrets]
  exact Config.settled_overlay_writtenData ..

/-- **One reconcile settles the secret**: from any state, the stored secret matches the
configuration afterwards. -/
theorem settled_preReconcile (cfg : Config) (s : ActionState) (rnd : RandomDraws) :
    ∃ secret, (preReconcile cfg s rnd).secret = some secret ∧ cfg.Settled secret := by
  unfold preReconcile
  cases hs : s.secret with
  | none => exact ⟨_, rfl, settled_prepareStringData cfg rnd⟩
  | some secret =>
    simp only
    split_ifs with h
    · exact ⟨secret, rfl, (update_eq_nil_iff ..).mp (List.length_eq_zero_iff.mp h)⟩
    · exact ⟨_, rfl, settled_overlay_update cfg secret rnd⟩

/-- A reconcile with a stored secret leaves it overlaid with what `db.Update` returns; an empty
update leaves it as it is. -/
theorem preReconcile_secret_of_some {cfg : Config} {s : ActionState} {secret : SecretData}
    (hs : s.secret = some secret) (rnd : RandomDraws) :
    (preReconcile cfg s rnd).secret = some (secret.overlay (update cfg secret rnd).1) := by
  unfold preReconcile
  rw [hs]
  simp only
  split_ifs with h
  · rw [List.length_eq_zero_iff.mp h, SecretData.overlay_nil]
  · rfl

/-- Reconciles with a matching secret keep it and leave Hydra alone. -/
theorem preReconcileRun_of_settled {cfg : Config} {secret : SecretData}
    (hsettled : cfg.Settled secret) (draws : List RandomDraws) (hdraws : draws ≠ []) :
    ∀ s : ActionState, s.secret = some secret →
      preReconcileRun cfg s draws = { secret := some secret, rolloutHydra := false } := by
  induction draws with
  | nil => exact absurd rfl hdraws
  | cons rnd draws ih =>
    intro s hs
    -- the first reconcile already leaves the state the others keep
    have hstep := preReconcile_of_settled hs hsettled rnd
    rw [preReconcileRun, List.foldl_cons, ← preReconcileRun, hstep]
    cases draws with
    | nil => rfl
    | cons rnd' draws => exact ih (List.cons_ne_nil _ _) _ rfl

/-- **The secret settles after one reconcile**: from any state, every later reconcile with the
same configuration keeps the secret and does not roll Hydra out. -/
theorem preReconcileRun_settles (cfg : Config) (s : ActionState) (rnd : RandomDraws)
    (draws : List RandomDraws) (hdraws : draws ≠ []) :
    preReconcileRun cfg (preReconcile cfg s rnd) draws =
      { secret := (preReconcile cfg s rnd).secret, rolloutHydra := false } := by
  obtain ⟨secret, hs, hsettled⟩ := settled_preReconcile cfg s rnd
  rw [preReconcileRun_of_settled hsettled draws hdraws _ hs, hs]

/-- **The database secret settles, and keeps what it stores of Hydra's secrets.**  `db.Update`
on the secret it has written returns no data; from any state, one reconcile leaves a secret that
matches the configuration, and every later reconcile with the same configuration keeps it and
does not roll Hydra out; and a reconcile of a stored secret keeps its non-empty `secretsSystem`
and `secretsCookie`, and, in PostgreSQL mode with no password in the configuration, its
non-empty PostgreSQL password. -/
theorem preReconcile_settles_keeping_secrets (cfg : Config) :
    (∀ (secret : SecretData) (rnd rnd' : RandomDraws),
      (update cfg (secret.overlay (update cfg secret rnd).1) rnd').1 = []) ∧
    (∀ (s : ActionState) (rnd : RandomDraws) (draws : List RandomDraws), draws ≠ [] →
      ∃ secret, (preReconcile cfg s rnd).secret = some secret ∧ cfg.Settled secret ∧
        preReconcileRun cfg (preReconcile cfg s rnd) draws =
          { secret := some secret, rolloutHydra := false }) ∧
    (∀ (s : ActionState) (secret : SecretData) (rnd : RandomDraws), s.secret = some secret →
      ∃ secret', (preReconcile cfg s rnd).secret = some secret' ∧
        (secret.get "secretsSystem" ≠ "" →
          secret'.get "secretsSystem" = secret.get "secretsSystem") ∧
        (secret.get "secretsCookie" ≠ "" →
          secret'.get "secretsCookie" = secret.get "secretsCookie") ∧
        (cfg.persistence.enabled = true → cfg.persistence.postgresqlFlag = true →
          cfg.postgresCfg.password = "" → secret.get "postgresql-password" ≠ "" →
          secret'.get "postgresql-password" = secret.get "postgresql-password")) := by
  refine ⟨update_overlay_update cfg, ?_, ?_⟩
  · intro s rnd draws hdraws
    obtain ⟨secret, hs, hsettled⟩ := settled_preReconcile cfg s rnd
    refine ⟨secret, hs, hsettled, ?_⟩
    rw [preReconcileRun_settles cfg s rnd draws hdraws, hs]
  · intro s secret rnd hs
    obtain ⟨hsystem, hcookie⟩ := update_keeps_secrets cfg secret rnd
    exact ⟨_, preReconcile_secret_of_some hs rnd, hsystem, hcookie,
      fun hen hpg hunset hstored => update_keeps_postgresqlPassword cfg secret rnd ⟨hen, hpg⟩
        hunset hstored⟩

end Reconciler.Ory
