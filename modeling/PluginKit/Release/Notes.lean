import PluginKit.Release.ChangeLog

/-!
Release notes: a fixed text around the change log, with the names of the plugin filled in.
-/

namespace PluginKit

structure ReleaseSettings where
  pluginUrlBase : String
  pluginName : String
  configKey : String
  npmPackage : String
  deriving DecidableEq

namespace Notes

def withoutSlashes (s : String) : String :=
  String.ofList (s.toList.reverse.dropWhile (· == '/')).reverse

def pluginUrl (version : String) (settings : ReleaseSettings) : String :=
  withoutSlashes settings.pluginUrlBase ++ "/" ++ settings.pluginName ++ "-" ++ version ++ ".wasm"

def lines (version changeLog : String) (settings : ReleaseSettings) : List String :=
  let key := settings.configKey
  ["## Changes", "", changeLog, "", "## Install", "",
    "[Install](https://dprint.dev/install/) and [setup](https://dprint.dev/setup/) dprint.", "",
    "Then in your project's dprint configuration file:", "",
    "1. Specify the plugin url in the `\"plugins\"` array (can be done via `dprint config add " ++
      settings.pluginName ++ "`).",
    "2. Add a `\"" ++ key ++ "\"` configuration property if desired.",
    "   ```jsonc", "   \x7b", "     // ...etc...", "     \"" ++ key ++ "\": \x7b",
    "       // " ++ key ++ " config goes here", "     \x7d,", "     \"plugins\": [",
    "       \"" ++ pluginUrl version settings ++ "\"", "     ]", "   \x7d", "   ```", "",
    "## JS Formatting API", "",
    "* [JS Formatter](https://github.com/dprint/js-formatter) - Browser/Deno and Node",
    "* [npm package](https://www.npmjs.com/package/" ++ settings.npmPackage ++ ")", ""]

def render (version changeLog : String) (settings : ReleaseSettings) : String :=
  String.intercalate "\n" (lines version changeLog settings)

end Notes

end PluginKit
