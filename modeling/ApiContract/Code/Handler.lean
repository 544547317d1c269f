import ApiContract.Code.Operation
import ApiContract.Grouping

/-!
The server side of a group: a trait with one method for each operation, and the table of the routes
that its methods serve.
-/

namespace ApiContract

structure RouteEntry where
  method : String
  template : String
  handler : String
  deriving DecidableEq, Repr, Inhabited

def RouteEntry.code (entry : RouteEntry) : Code :=
  Code.write "($method, $template, $handler)"
    [("method", Code.text entry.method), ("template", Code.text entry.template),
     ("handler", Code.text entry.handler)]

def OperationPlan.routeEntry (plan : OperationPlan) : RouteEntry where
  method := plan.call.method.name
  template := plan.call.routeTemplate
  handler := plan.methodName

/-- The declaration of an operation's method in the trait. -/
def OperationPlan.handlerMethod (plan : OperationPlan) : Except GenerationError Code := do
  let arguments ← plan.call.argumentsCode
  let returns ← plan.dispatch.returnCode
  pure (Code.write r#"
    $doc
    async fn $name(&self, $arguments) -> Result<$returns, crate::shared::ApiError>;"#
    [("doc", Code.doc (" Handles `" ++ plan.route ++ "`.")),
     ("name", Code.ident plan.methodName), ("arguments", arguments), ("returns", returns)])

structure HandlerCode where
  name : String
  clientName : String
  methods : List Code
  routes : List RouteEntry
  deriving DecidableEq, Inhabited

namespace HandlerCode

def ofGroup (group : OperationGroup) (plans : List OperationPlan) :
    Except GenerationError HandlerCode := do
  let methods ← plans.mapM OperationPlan.handlerMethod
  pure
    { name := group.handlerName
      clientName := group.clientName
      methods
      routes := plans.map OperationPlan.routeEntry }

def code (handler : HandlerCode) : Code :=
  Code.write r#"
    $doc
    #[allow(async_fn_in_trait)]
    pub trait $name { $methods }
    /// Routes served by the handler as `(method, route template, handler method)`.
    pub const ROUTES: &[(&str, &str, &str)] = &[ $routes ];"#
    [("doc",
        Code.doc (" Server-side implementation of the [`" ++ handler.clientName ++
          "`] operations.")),
     ("name", Code.ident handler.name), ("methods", Code.sequence handler.methods),
     ("routes", Code.commaSeparated (handler.routes.map RouteEntry.code))]

end HandlerCode

end ApiContract
