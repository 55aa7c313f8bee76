import Timetable.Zone.Entry

/-!
Time zones of the area Pacific.
-/
namespace Timetable.Zone

def entriesPacific : List Entry := [
  ⟨"Pacific/Apia", 45184, [-41216, -41400, -39600, -36000, 50400, 46800],
    [
      "TkFSa00UH1Vm01VQOWGu2XCdoUm3XDbolW2XEVU9W3XE_OkW4XFTmtW5XGPlxW4XHO2fW5XIHk3W4XJG0nW5",
      "XK9iBW4XL7-vW5XM1gJW4XM_z1W5XNveRW4XOtx9W5XPncZW4XQlvHW5XRhuLW4XSgB3W5XTZsTW4XUY9BW5",
      "XVRqbW4XWQ7JW5"],
    none⟩,
  ⟨"Pacific/Auckland", 41944, [41400, 45000, 43200, 46800],
    [
      "T1jqoe0UmjBBe1UnKOTO0UoUELe2UpG-LW0UqMCTe2Ur8yTW0UsEAbe2Ut0wbW0Uu68je2UuxCNW0Uv-6re2",
      "UwpAVW0Uxs4ze2Uyu-ZW0UzhlRe2U-myhW0U_ZjZe2V0ewpW0V1Rhhe2V2WuxW0V3Jfpe2V4Ot3W0V5Bdxe2",
      "V6J8rW0V73c3e2V8B6zW0V8ztre2W96FtW3W9hANW2WAxwLW3WBdlpW2WCsC7W3WDVjxW2WEkAFW3WFNi3W2",
      "WGc8NW3WHFgBW2WIU6VW3WJ7eJW2WKM4dW3WK_cRW2WME2lW3WMvuDW2WO8KXW3WOnsLW2WQ0IfW3WQfqTW2",
      "WRuGnW3WSXobW2WTmEvW3WUPmjW2WVeD1W3WWHkrW2WXWB9W3WYC0dW2WZQSxW3Wa3-lW2WbBW5W3Wc0aBW2",
      "Wd3UDW3WduYJW2WexSLW3WfmWRW2WgpQTW3WhgoDW2WihObW3WjYmLW2WkZMjW3WlQkTW2WmRKrW3WnIibW2",
      "WoLcdW3WpAgjW2WqDalW3Wr2erW2Ws5YtW3WsywdW2WtzW_W3WuqulW2WvrV7W3WwistW2WxlmvW3Wyaq_W2",
      "Wzdl1W3W-Sp7W2W_Vj9W3X0N4vW2X1NhHW3X2F31W2X3FfPW3X4719W2X57dXW3X5-_HW2X6_bfW3"],
    some ⟨43200, 46800, ⟨9, 5, 0, 7200⟩, ⟨4, 1, 0, 10800⟩⟩⟩,
  ⟨"Pacific/Bougainville", 37336, [35312, 36000, 32400, 39600],
    ["TMjb8e0ToxQIG1VCGpPW2VIAspm1XKdjU03"],
    none⟩,
  ⟨"Pacific/Chatham", 44028, [44100, 45900, 49500],
    [
      "T1jqI40VIsfQy1W96FtW2W9hANW1WAxwLW2WBdlpW1WCsC7W2WDVjxW1WEkAFW2WFNi3W1WGc8NW2WHFgBW1",
      "WIU6VW2WJ7eJW1WKM4dW2WK_cRW1WME2lW2WMvuDW1WO8KXW2WOnsLW1WQ0IfW2WQfqTW1WRuGnW2WSXobW1",
      "WTmEvW2WUPmjW1WVeD1W2WWHkrW1WXWB9W2WYC0dW1WZQSxW2Wa3-lW1WbBW5W2Wc0aBW1Wd3UDW2WduYJW1",
      "WexSLW2WfmWRW1WgpQTW2WhgoDW1WihObW2WjYmLW1WkZMjW2WlQkTW1WmRKrW2WnIibW1WoLcdW2WpAgjW1",
      "WqDalW2Wr2erW1Ws5YtW2WsywdW1WtzW_W2WuqulW1WvrV7W2WwistW1WxlmvW2Wyaq_W1Wzdl1W2W-Sp7W1",
      "W_Vj9W2X0N4vW1X1NhHW2X2F31W1X3FfPW2X4719W1X57dXW2X5-_HW1X6_bfW2"],
    some ⟨45900, 49500, ⟨9, 5, 0, 9900⟩, ⟨4, 1, 0, 13500⟩⟩⟩,
  ⟨"Pacific/Easter", -26248, [-25200, -21600, -18000],
    [
      "Uvnq280VzqJn01V-algm0V_pCt01W0Sjom0W1TL301W2G4cm0W3LJB01W482km0W5Faz01W600sm0W72xn01",
      "W7t--m0W8_XD01W9lz6m0WAtVL01WBgEum0WClTT01WDYD0m0WEdRb01WFQB8m0WGXjN01WHI9Gm0WIPhV01",
      "WJA7Om0WKHfd01WL4PAm0WM9dl01WO1bt02WOqLQm1WPvZ_02WQiJYm1WRprn02WSaHgm1WThpv02WUSFom1",
      "WVZo102WWVmCm1WXRm902WYEVim1WZJkH02Wa6Tqm1WbE0302Wb-Rym1WcylZ02WdsQ4m1WezyJ02Wfmhsm1",
      "WgrwR02Whef-m1WijuZ02WjWe6m1Wkbsh02WlOcEm1WmW8T02WnGaMm1WoO6b02WpFTSm1WqG4j02Wr2qGm1",
      "Ws3RX02Wt1jMm1Wu00z02WuomWm1WvwIl02Wwgkem1WxoGt02WyYimm1WzgE_02W-Qgum1W_YD702X0Kygm1",
      "X1QBF02X2Cwom1X3I9N02X44uwm1X5CR902X5yt2m1X74PH02X7xm8m1X8yNP02X9l6ym1XAqLX02XBk02m1",
      "XCiJf02XDnWSm1XEK8B02XFdAwm1XGGjd02XHV92m1XIA_P02XJN7Am1XK2zX02XND-Om1XNh-p02XP5yWm1",
      "XPZyx02XQzwem1XRRx302XSgMUm1XTT7p02XUYKcm1XVL5x02XWQIkm1XXD4302XYIGsm1XZ7Lr02XaAE-m1"],
    some ⟨-21600, -18000, ⟨9, 1, 6, 79200⟩, ⟨4, 1, 6, 79200⟩⟩⟩,
  ⟨"Pacific/Efate", 40396, [39600, 43200],
    [
      "UIzSAq0W7UPb01W7-in00WPqlVG1WQmjh00WRijdG1WSehp00WTc_PG1WUWfx00WVUzXG1WWQxj00WXMxfG1",
      "WYIvr00WZEvnG1WaAtz00Wb6tvG1Wc2s500Wc-s1G1WdwqD00Wev7pG1WfWL500WgwKZG1WhOJD00"],
    none⟩,
  ⟨"Pacific/Fakaofo", -41096, [-39600, 46800],
    ["T-DrM80XE_Pcm1"],
    none⟩,
  ⟨"Pacific/Fiji", 42944, [43200, 46800],
    [
      "UQ4x700WsEnVW1Wsr_fW0Wu93HW1WujznW0XB4IpW1XBhWzW0XCmkfW1XDSa7W0XEeinW1XF6iJW0XGWgvW1",
      "XG-gRW0XIQyhW1XIsdhG0XKLETW1XKkchW0XMDCbW1XMcapW0XO7UNW1XOUYxW0XP_SVW1XQMX3W0XRtQdW1",
      "XSEVBW0XTniPW1XU6TJW0XVtWTW1XW0l5W0"],
    none⟩,
  ⟨"Pacific/Galapagos", -21504, [-18000, -21600],
    ["Usf4o00WU6CHG1Wh5mhW0WhSVHG1"],
    none⟩,
  ⟨"Pacific/Gambier", -32388, [-32400],
    ["UKK4W40"],
    none⟩,
  ⟨"Pacific/Guadalcanal", 38388, [39600],
    ["UKJpEC0"],
    none⟩,
  ⟨"Pacific/Guam", -51660, [34740, 36000, 32400, 39600],
    [
      "SKuSNC0T-DYrC1VBDvNW2VGBedm1ViDxu03VlDlZm1Vxcm003V-FoUC1V_0Hu03V_NLZm1W0bom03W1HdLm1",
      "W2Tmu03W39bTm1W7S9S03W7pD7m1WC29403WCV8Si1WDlvI03WEPQDm1"],
    none⟩,
  ⟨"Pacific/Honolulu", -37886, [-37800, -34200, -36000],
    ["Tqu72-0Ux1KD81Ux8N5O0VBYJt81VIOKau0VLZND82"],
    none⟩,
  ⟨"Pacific/Kanton", 0, [-43200, -39600, 46800],
    ["V3BDk00WILWJ01Wl1Jcm2"],
    none⟩,
  ⟨"Pacific/Kiritimati", -37760, [-38400, -36000, 50400],
    ["T-DqY00WILV801Wl1IkW2"],
    none⟩,
  ⟨"Pacific/Kosrae", -47284, [39116, 39600, 32400, 36000, 43200],
    ["SKuRIq0T-DXmq1UO4PNG2UWEVdm1V1xJNG3V9wWfW2VI4Gxm1V_XXjG4WsYsT01"],
    none⟩,
  ⟨"Pacific/Kwajalein", 40160, [39600, 36000, 32400, -43200, 43200],
    ["T-DXWW0V1xJNG1V9wWfW2VFHe7m0V_XXjG3WiTWv04"],
    none⟩,
  ⟨"Pacific/Marquesas", -33480, [-34200],
    ["UKK4n80"],
    none⟩,
  ⟨"Pacific/Nauru", 40060, [41400, 32400, 43200],
    ["UZvoi40VCaEd81VIGoVm0WH8QZe2"],
    none⟩,
  ⟨"Pacific/Niue", -40780, [-40800, -39600],
    ["VVeMfC0VrfhXW1"],
    none⟩,
  ⟨"Pacific/Norfolk", 40312, [40320, 41400, 45000, 39600, 43200],
    ["T-DXU80VSGVY01W93yfe2W9jUTe1XM3-Pe3XTcA_m4"],
    some ⟨39600, 43200, ⟨10, 1, 0, 7200⟩, ⟨4, 1, 0, 10800⟩⟩⟩,
  ⟨"Pacific/Noumea", 39948, [39600, 43200],
    ["UIzSHq0WEvhfG1WFLhl00WGnfnG1WHD-z00Woe4lm1Wp64Hm0"],
    none⟩,
  ⟨"Pacific/Pago_Pago", 45432, [-40968, -39600],
    ["TkFSW80UH1Vi81"],
    none⟩,
  ⟨"Pacific/Palau", -54124, [32276, 32400],
    ["SKuSzi0T-DZRi1"],
    none⟩,
  ⟨"Pacific/Pitcairn", -31220, [-30600, -28800],
    ["T-Doxq0WrH4881"],
    none⟩,
  ⟨"Pacific/Port_Moresby", 35320, [35312, 36000],
    ["TMjbe80ToxQIG1"],
    none⟩,
  ⟨"Pacific/Rarotonga", 48056, [-38344, -37800, -34200, -36000],
    [
      "TyJDp80VVeM381WGh1ie2WHFxKO3WIUO4W2WJ7vSO3WKMMCW2WK_taO3WMEKKW2WMw9MO3WO8c6W2WOo7UO3",
      "WQ0aEW2WQg5cO3WRuYMW2WSY3kO3WTmWUW2WUQ1sO3WVeUcW2WWH_-O3WXWSkW2WYCHmO3WZQkWW2Wa4FuO3",
      "WbIieW2WbyE0O3WdAgmW2WdqC8O3"],
    none⟩,
  ⟨"Pacific/Tahiti", -35896, [-36000],
    ["UKK5Mu0"],
    none⟩,
  ⟨"Pacific/Tarawa", 41524, [43200],
    ["T-DXBC0"],
    none⟩,
  ⟨"Pacific/Tongatapu", 44352, [44400, 46800, 50400],
    ["VIHPn00Vl4U0G1Wt-qVG2WuqttG1Ww10XG2WwShX01Wxu-fG2WyKff01XO7TVG2XOUY3G1"],
    none⟩]

end Timetable.Zone
