import Graphide.Json
import Graphide.Joern.Cpg
import Graphide.Joern.Workspace
import Graphide.Joern.Extract
import Graphide.Joern.Script
import Graphide.Joern.Cleanup
import Graphide.Joern.Findings
import Graphide.Joern.Interleave
import Graphide.Joern.Shared
import Graphide.Webview.Js
import Graphide.Webview.Provider
import Graphide.Webview.App
import Graphide.Webview.AnalysisView
import Graphide.Webview.Analysis
import Graphide.Webview.Handler
import Graphide.Webview.GraphView
import Graphide.Webview.ChatPane
import Graphide.Webview.ChatLog
import Graphide.Webview.ChatSession
import Graphide.Webview.Channel
import Graphide.Webview.RoundTrip
import Graphide.Webview.Dashboard
import Graphide.Webview.Streaming
import Graphide.Webview.Overhaul
import Graphide.Webview.OverhaulLog
import Graphide.Webview.OverhaulSession
import Graphide.Webview.OverhaulInvariants
import Graphide.Webview.Page
import Graphide.Webview.OverhaulSidebar
