
namespace Dispatchers.Template.Standard

def ofLines (lines : List String) : String :=
  String.join (lines.map (· ++ "\n"))

def handler : String :=
  ofLines [
    "<@ header @>",
    "",
    "package <@ package @>",
    "",
    "import (",
    "<% for alias, path in merge(base_imports, imports) | items %>",
    "\t<@ alias @> <@ path | go_quote @>",
    "<% endfor %>",
    ")",
    "",
    "<% for line in controller.comments %>",
    "<@ line @>",
    "<% endfor %>",
    "// <@ controller.name @> dispatches requests to contr.<@ controller.name @>.",
    "type <@ controller.name @> struct\x7b\x7d",
    "",
    "// New allocates a contr.<@ controller.name @> bound to the current request.",
    "func (t <@ controller.name @>) New(w http.ResponseWriter, r *http.Request, ctr, act " ++
      "string) *contr.<@ controller.name @> \x7b",
    "\tc := &contr.<@ controller.name @>\x7b\x7d",
    "<% for parent in controller.parents %>",
    "\tc.<@ parent.name @> = <@ parent.call @>\x7b\x7d.New(w, r, ctr, act)",
    "<% endfor %>",
    "<% for field in controller.fields %>",
    "\tc.<@ field.name @> = <@ field.value @>",
    "<% endfor %>",
    "\treturn c",
    "\x7d",
    "<% for action in controller.actions %>",
    "",
    "<% for line in action.comments %>",
    "<@ line @>",
    "<% endfor %>",
    "// <@ action.name @> serves <@ (controller.name ~ \".\" ~ action.name) | go_quote @>.",
    "func (t <@ controller.name @>) <@ action.name @>(w http.ResponseWriter, r *http.Request) \x7b",
    "<% if action.params %>",
    "\t_ = r.ParseForm()",
    "<% endif %>",
    "<% if controller.needs_args %>",
    "\ta := []string\x7b<% for p in action.params %><% if not loop.first %>, <% endif " ++
      "%>r.Form.Get(<@ p.name | go_quote @>)<% endfor %>\x7d",
    "<% endif %>",
    "\tc := t.New(w, r, <@ controller.name | go_quote @>, <@ action.name | go_quote @>)",
    "<% for hook in controller.before %>",
    "<% if hook.returns_handler %>",
    "\tif h := http.Handler(<@ hook.receiver @>.Before(w, r<% if hook.forwards_args %>, " ++
      "a<% endif %>)); h != nil \x7b",
    "\t\th.ServeHTTP(w, r)",
    "\t\treturn",
    "\t\x7d",
    "<% else %>",
    "\tif !<@ hook.receiver @>.Before(w, r<% if hook.forwards_args %>, a<% endif %>) \x7b",
    "\t\treturn",
    "\t\x7d",
    "<% endif %>",
    "<% endfor %>",
    "\tvar h http.Handler",
    "\th<% for n in range(action.extra_results) %>, _<% endfor %> = c.<@ action.name @>(<% " ++
      "for p in action.params %><% if not loop.first %>, <% endif %><@ p.conv @>(r.Form, <@ " ++
      "p.name | go_quote @>)<% endfor %>)",
    "<% for hook in controller.after %>",
    "<% if hook.returns_handler %>",
    "\tif ah := http.Handler(<@ hook.receiver @>.After(w, r<% if hook.forwards_args %>, " ++
      "a<% endif %>)); ah != nil \x7b",
    "\t\th = ah",
    "\t\x7d",
    "<% else %>",
    "\tif !<@ hook.receiver @>.After(w, r<% if hook.forwards_args %>, a<% endif %>) \x7b",
    "\t\treturn",
    "\t\x7d",
    "<% endif %>",
    "<% endfor %>",
    "\tif h != nil \x7b",
    "\t\th.ServeHTTP(w, r)",
    "\t\x7d",
    "\x7d",
    "<% endfor %>",
    "",
    "// Routes lists the routes served by <@ controller.name @>.",
    "func (t <@ controller.name @>) Routes() []Route \x7b",
    "\treturn []Route\x7b",
    "<% for action in controller.actions %>",
    "<% for route in action.routes %>",
    "\t\t\x7bMethod: <@ route.method | go_quote @>, Pattern: <@ route.pattern | go_quote " ++
      "@>, Label: <@ route.label | go_quote @>, HandlerName: <@ route.handler_name | " ++
      "go_quote @>, Handler: t.<@ action.name @>\x7d,",
    "<% endfor %>",
    "<% endfor %>",
    "\t\x7d",
    "\x7d"]

def package : String :=
  ofLines [
    "<@ header @>",
    "",
    "package <@ package @>",
    "",
    "import (",
    "<% for alias, path in merge(base_imports, imports) | items %>",
    "\t<@ alias @> <@ path | go_quote @>",
    "<% endfor %>",
    ")",
    "",
    "// Route binds a method and pattern to a generated dispatcher.",
    "type Route struct \x7b",
    "\tMethod      string",
    "\tPattern     string",
    "\tLabel       string",
    "\tHandlerName string",
    "\tHandler     http.HandlerFunc",
    "\x7d",
    "",
    "// Routes returns the routes of every controller in this package.",
    "func Routes() []Route \x7b",
    "\tvar routes []Route",
    "<% for name in controllers %>",
    "\troutes = append(routes, <@ name @>\x7b\x7d.Routes()...)",
    "<% endfor %>",
    "\treturn routes",
    "\x7d",
    "",
    "// Init initializes the packages of parent controllers, then this one.",
    "func Init() \x7b",
    "<% for id in parent_ids %>",
    "\tc<@ id @>.Init()",
    "<% endfor %>",
    "<% if init_func %>",
    "\tcontr.Init()",
    "<% endif %>",
    "\x7d",
    "<% for helper in helpers %>",
    "",
    "func parse<@ helper.func @>(s string) <@ helper.ty @> \x7b",
    "<% if helper.parser %>",
    "\tv, _ := <@ helper.parser @>",
    "\treturn <@ helper.ty @>(v)",
    "<% else %>",
    "\treturn s",
    "<% endif %>",
    "\x7d",
    "",
    "func param<@ helper.func @>(form url.Values, key string) <@ helper.ty @> \x7b",
    "\treturn parse<@ helper.func @>(form.Get(key))",
    "\x7d",
    "",
    "func param<@ helper.func @>s(form url.Values, key string) []<@ helper.ty @> \x7b",
    "\tvalues := form[key]",
    "\tout := make([]<@ helper.ty @>, 0, len(values))",
    "\tfor _, s := range values \x7b",
    "\t\tout = append(out, parse<@ helper.func @>(s))",
    "\t\x7d",
    "\treturn out",
    "\x7d",
    "<% endfor %>"]

def listing : String :=
  ofLines [
    "<@ header @>",
    "",
    "package <@ package @>",
    "",
    "// Root is the directory the listing was generated from.",
    "const Root = <@ root | go_quote @>",
    "",
    "// Context maps paths relative to Root to their full paths.",
    "var Context = map[string]string\x7b",
    "<% for entry in entries %>",
    "\t<@ entry.key | go_quote @>: <@ entry.path | go_quote @>,",
    "<% endfor %>",
    "\x7d"]

end Dispatchers.Template.Standard
