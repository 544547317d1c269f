import ApiContract.Code.Operation
import ApiContract.Grouping

/-!
The client of a group: a struct with an endpoint and the methods of every operation of the group.
-/

namespace ApiContract

structure ClientCode where
  name : String
  key : String
  isPublic : Bool
  methods : List OperationMethods
  deriving DecidableEq, Inhabited

namespace ClientCode

def ofGroup (model : Model) (group : OperationGroup) (plans : List OperationPlan)
    (isPublic : Bool) : Planning GenerationError ClientCode := do
  let methods ← plans.mapM (OperationPlan.methods model)
  pure { name := group.clientName, key := group.key, isPublic, methods }

def summary (client : ClientCode) : String :=
  if client.key.isEmpty then " Client for operations without a group."
  else " Client for the `" ++ client.key ++ "` operations."

def code (client : ClientCode) : Code :=
  Code.write r#"
    $doc
    #[derive(Debug, Clone)]
    $visibility struct $name {
      client: reqwest::Client,
      endpoint: String,
    }
    impl $name {
      /// Creates a client for the given endpoint, e.g. `https://example.com`.
      pub fn new(endpoint: impl Into<String>) -> Self {
        Self::with_client(reqwest::Client::new(), endpoint)
      }
      /// Creates a client sharing an existing `reqwest::Client`.
      pub fn with_client(client: reqwest::Client, endpoint: impl Into<String>) -> Self {
        Self {
          client,
          endpoint: endpoint.into(),
        }
      }
      pub fn endpoint(&self) -> &str { &self.endpoint }
      $methods
    }"#
    [("doc", Code.doc client.summary),
     ("visibility", Code.plain (if client.isPublic then "pub" else "pub(crate)")),
     ("name", Code.ident client.name),
     ("methods", Code.sequence (client.methods.map fun method => method.create ++ method.send))]

end ClientCode

end ApiContract
