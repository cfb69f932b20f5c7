/-
Provider connections and their secrets (`app/integration/services/connections.py`,
`services/secrets_backend.py`).

The secrets are in a vault outside the database: its calls take effect at once and are not
undone by a rollback.  Each operation gets from its environment what becomes of its vault
calls and of its commit, and returns its result with the state it leaves.
-/
import Nexotec.Core.Base

namespace Nexotec.Integration

/-! ### The vault -/

inductive SecretSlot where
  | password
  | aesKey
  | clientSecret
  | refreshToken
  | certificate
  deriving DecidableEq

def SecretSlot.value : SecretSlot → String
  | .password => "password"
  | .aesKey => "aes_key"
  | .clientSecret => "client_secret"
  | .refreshToken => "refresh_token"
  | .certificate => "certificate"

abbrev Path := Uuid × SecretSlot

abbrev Vault := Table Path String

/-- What becomes of a call of the vault that it could execute. -/
inductive VaultCall where
  | executes
  | fails
  | notConfigured
  deriving DecidableEq

/-- `SecretsBackendNotConfigured` -/
def secretsBackendNotConfigured : AppError :=
  conflictError "No Infisical project is configured for this deployment."

def secretRefFor (path : Path) : String := s!"/integrations/{path.1}/{path.2.value}"

/-- `create_secret`: the vault refuses a key it has. -/
def createSecret (call : VaultCall) (path : Path) (value : String) (vault : Vault) : Result Vault :=
  match call with
  | .notConfigured => .error secretsBackendNotConfigured
  | .fails => .error (internalError "the vault is not available")
  | .executes =>
    if (vault.lookup path).isSome then .error (internalError "the secret exists")
    else .ok (vault.insert path value)

/-- `update_secret`: the vault refuses a key it does not have. -/
def updateSecret (call : VaultCall) (path : Path) (value : String) (vault : Vault) : Result Vault :=
  match call with
  | .notConfigured => .error secretsBackendNotConfigured
  | .fails => .error (internalError "the vault is not available")
  | .executes =>
    if (vault.lookup path).isSome then .ok (vault.insert path value)
    else .error (internalError "the secret does not exist")

/-- `delete_secret`: so for a deletion. -/
def deleteSecret (call : VaultCall) (path : Path) (vault : Vault) : Result Vault :=
  match call with
  | .notConfigured => .error secretsBackendNotConfigured
  | .fails => .error (internalError "the vault is not available")
  | .executes =>
    if (vault.lookup path).isSome then .ok (vault.erase path)
    else .error (internalError "the secret does not exist")

/-! ### The registry -/

structure IntegrationConnection where
  tenantId : Option Uuid := none
  rotatedAt : Option Time := none

structure IntegrationSecretRef where
  secretRef : String
  rotatedAt : Option Time := none

structure State where
  vault : Vault := ∅
  connections : Table Uuid IntegrationConnection := ∅
  /-- Unique for connection and slot. -/
  secretRefs : Table Path IntegrationSecretRef := ∅
  /-- The connections of the entitlements. -/
  entitlements : List Uuid := []
  /-- The connections of the logged calls. -/
  callLog : List Uuid := []

/-- What the vault and the database make of one operation. -/
structure Env where
  vault : SecretSlot → VaultCall := fun _ => .executes
  commits : Bool := true
  now : Time := 0
  /-- The rows of a SELECT without ORDER BY, in the order they come. -/
  unordered : List SecretSlot → List SecretSlot := id
  unordered_perm : ∀ slots, (unordered slots).Perm slots := by exact .refl

def slotsOf (env : Env) (connectionId : Uuid) (st : State) : List SecretSlot :=
  env.unordered ((st.secretRefs.keys.filter fun path => path.1 = connectionId).map (·.2))

/-- An operation that raises: the database is as it was, the vault as it is left. -/
def raised (exc : AppError) (vault : Vault) (st : State) : Result Unit × State :=
  (.error exc, { st with vault := vault })

/-- The commit of what an operation has written; a constraint that is checked there refuses
it. -/
def committed (env : Env) (allowed : Bool) (written st : State) : Result Unit × State :=
  if env.commits = false then raised (internalError "the commit failed") written.vault st
  else if allowed = false then raised (internalError "foreign key violation") written.vault st
  else (.ok (), written)

def setSecret (env : Env) (connectionId : Uuid) (slot : SecretSlot) (value : String) (st : State) :
    Result Unit × State :=
  let path := (connectionId, slot)
  match st.connections.lookup connectionId with
  | none => (.error (notFoundError s!"Connection {connectionId} was not found."), st)
  | some connection =>
    let connections := st.connections.insert connectionId { connection with rotatedAt := some env.now }
    match st.secretRefs.lookup path with
    | some _ =>
      match updateSecret (env.vault slot) path value st.vault with
      | .error exc => raised exc st.vault st
      | .ok vault =>
        committed env true { st with
          vault := vault
          connections := connections
          secretRefs := st.secretRefs.insert path ⟨secretRefFor path, some env.now⟩ } st
    | none =>
      match createSecret (env.vault slot) path value st.vault with
      | .error exc => raised exc st.vault st
      | .ok vault =>
        committed env true { st with
          vault := vault
          connections := connections
          secretRefs := st.secretRefs.insert path ⟨secretRefFor path, none⟩ } st

def removeSecret (env : Env) (connectionId : Uuid) (slot : SecretSlot) (st : State) :
    Result Unit × State :=
  let path := (connectionId, slot)
  match st.connections.lookup connectionId with
  | none => (.error (notFoundError s!"Connection {connectionId} was not found."), st)
  | some _ =>
    match st.secretRefs.lookup path with
    | none =>
      (.error (notFoundError s!"Connection {connectionId} has no '{slot.value}' secret."), st)
    | some _ =>
      match deleteSecret (env.vault slot) path st.vault with
      | .error exc => raised exc st.vault st
      | .ok vault =>
        committed env true { st with vault := vault, secretRefs := st.secretRefs.erase path } st

/-- The vault calls of `delete_connection`, one after the other; a vault that is not
configured is passed over. -/
def deleteSecrets (call : SecretSlot → VaultCall) (connectionId : Uuid) :
    List SecretSlot → Vault → Option AppError × Vault
  | [], vault => (none, vault)
  | slot :: slots, vault =>
    if call slot = .notConfigured then deleteSecrets call connectionId slots vault
    else
      match deleteSecret (call slot) (connectionId, slot) vault with
      | .error exc => (some exc, vault)
      | .ok vault => deleteSecrets call connectionId slots vault

/-- `delete_connection`; a logged call refuses the deletion of its connection. -/
def deleteConnection (env : Env) (confirm : Bool) (connectionId : Uuid) (st : State) :
    Result Unit × State :=
  match st.connections.lookup connectionId with
  | none => (.error (notFoundError s!"Connection {connectionId} was not found."), st)
  | some _ =>
    if confirm = false then
      (.error (conflictError "Deleting a connection requires confirmation."), st)
    else
      match deleteSecrets env.vault connectionId (slotsOf env connectionId st) st.vault with
      | (some exc, vault) => raised exc vault st
      | (none, vault) =>
        committed env (connectionId ∉ st.callLog) { st with
          vault := vault
          connections := st.connections.erase connectionId
          secretRefs := Table.keep (fun path _ => path.1 ≠ connectionId) st.secretRefs
          entitlements := st.entitlements.filter (· ≠ connectionId) } st

/-- `record_call`, in a session of its own. -/
def recordCall (env : Env) (connectionId : Uuid) (st : State) : Result Unit × State :=
  committed env (st.connections.lookup connectionId).isSome
    { st with callLog := connectionId :: st.callLog } st

def createConnection (env : Env) (id : Uuid) (tenantId : Option Uuid) (st : State) :
    Result Unit × State :=
  if id ∈ st.connections.keys ++ st.secretRefs.keys.map (·.1) ++ st.vault.keys.map (·.1) then
    (.error (internalError "duplicate key"), st)
  else committed env true { st with connections := st.connections.insert id ⟨tenantId, none⟩ } st

inductive Action where
  | create (id : Uuid) (tenantId : Option Uuid)
  | setSecret (connectionId : Uuid) (slot : SecretSlot) (value : String)
  | removeSecret (connectionId : Uuid) (slot : SecretSlot)
  | deleteConnection (connectionId : Uuid) (confirm : Bool)
  | call (connectionId : Uuid)

def perform (st : State) (a : Action × Env) : Result Unit × State :=
  match a.1 with
  | .create id tenantId => createConnection a.2 id tenantId st
  | .setSecret connectionId slot value => setSecret a.2 connectionId slot value st
  | .removeSecret connectionId slot => removeSecret a.2 connectionId slot st
  | .deleteConnection connectionId confirm => deleteConnection a.2 confirm connectionId st
  | .call connectionId => recordCall a.2 connectionId st

def next (st : State) (a : Action × Env) : State := (perform st a).2

end Nexotec.Integration
