import Timetable.Zone.Entry

/-!
Time zones of the area America.
-/
namespace Timetable.Zone

def entriesAmerica : List Entry := [
  ⟨"America/Adak", 44002, [-42398, -39600, -36000, -32400],
    [
      "S_mltH0TzXrfU1VBYKJG2VIOL101V-k75G2V_g5H01W0c5DG2W1Y3P01W2U3LG2W3SLB01W4OL7G2W5KJJ01",
      "W6GJFG2W7CHR01W7ZMtG2W94FZ01W9hUbG2WAyDh01WBuDdG2WCsVT01WDmBlG2WEkTb01WFgTXG2WGcRj01",
      "WHYRfG2WIUPr01WJQPnG2WKMNz01WLINvG2WMEM501WNAM1G2WO8dt01WP2K9G2WQyb303WRuZEm2WSqZB03",
      "WTmXMm2WUiXJ03WVeVUm2WWTaT03WXWTcm2WYLYb03WZQlOm2WaDWj03WbIjWm2Wc5Ur03WdAhem2Wd_md03",
      "Wf2fmm2Wftkl03Wgwdum2Whlit03Wiqvgm2Wjdg_03Wkitom2WlVf703Wmarwm2WnPwv03WoSq2m2WpHv103",
      "WqKoAm2Wr9t903WsCmIm2Wt1rH03Wu724m2WuvpP03Wv_0Cm2WwnnX03Wxs-Km2Wyi3J03WzkySm2W-a1R03",
      "W_cwam2X0R_Z03X1XCMm2X2Jzh03X3PAUm2X4Bxp03X5H8cm2X5y-z03"],
    some ⟨-36000, -32400, ⟨3, 2, 0, 7200⟩, ⟨11, 1, 0, 7200⟩⟩⟩,
  ⟨"America/Anchorage", 50424, [-35976, -36000, -32400, -28800],
    [
      "S_mltH0TzXq581VBYJR02VIOK8m1V-k6D02V_g4Om1W0c4L02W1Y2Wm1W2U2T02W3SKIm1W4OKF02W5KIQm1",
      "W6GIN02W7CGYm1W7ZL_02W94Egm1W9hTj02WAyCom1WBuCl02WCsUam1WDmAt02WEkSim1WFgSf02WGcQqm1",
      "WHYQn02WIUOym1WJQOv02WKMN4m1WLIN102WMELCm1WNAL902WO8c-m1WP2JH02WQyaAm3WRuYMW2WSqYIm3",
      "WTmWUW2WUiWQm3WVeUcW2WWTZam3WXWSkW2WYLXim3WZQkWW2WaDVqm3WbIieW2Wc5Tym3WdAgmW2Wd_lkm3",
      "Wf2euW2Wftjsm3Wgwd0W2Whlh-m3WiquoW2Wjdg6m3WkiswW2WlVeEm3Wmar2W2WnPw0m3WoSpAW2WpHu8m3",
      "WqKnIW2Wr9sGm3WsClQW2Wt1qOm3Wu71CW2WuvoWm3Wv-_KW2Wwnmem3WxszSW2Wyi2Qm3WzkxaW2W-a0Ym3",
      "W_cviW2X0R-gm3X1XBUW2X2Jyom3X3P9cW2X4Bwwm3X5H7kW2X5y-4m3"],
    some ⟨-32400, -28800, ⟨3, 2, 0, 7200⟩, ⟨11, 1, 0, 7200⟩⟩⟩,
  ⟨"America/Araguaina", -11568, [-10800, -7200],
    [
      "UMgdGm0Uu3qdW1Uu_K2W0UvyJGm1UwtdGW0VQEAum1VQw_em0VS6U6m1VSkLaW0VT-nKm1VUczuW0VVtPem1",
      "VWL3CW0Vqb_-m1Vr1LuW0Vsm6Gm1Vt3XwW0VuKImm1VunyKW0Vw2jAm1VwgFYW0Vxx0Om1VyYtsW0WToOum1",
      "WUUDUW0WVe3Mm1WWCy-W0WXWMam1WY2yYW0WZM12m1WZud0W0WbD_Am1WbrCSW0WmW7am1Wn7KsW0WoLo2m1",
      "Wp1ceW0WqE5Gm1Wq-C4W0Ws81ym1WspsYW0WtziQm1Wuk8KW0Wvt-Cm1WwZooW0WxoF-m1WyRmwW0Wzn94m1",
      "W-Jl2W0XGWsKm1XH83cW0"],
    none⟩,
  ⟨"America/Argentina/Buenos_Aires", -14028, [-15408, -14400, -10800, -7200],
    [
      "TodAXC0UYaeym1UsUr902Ut6icm1Uu7ez02Uur70m1Uw5tt02UwjQEm1Ux-B502UybjSm1UzsUJ02U-U0gm1",
      "U_knX02V0Me-m1V1dPr02V2EyCm1V3Vj302V47FQm1V5O0H02V5_Yem1V7GJV02V7uAym1V8WPH02VAJQ6m1",
      "VAxeR02VEJVym1VEiEt02VJAJMm1VKGsJ02VqFGWm1Vqd_R02Vr1Mmm1VsCX102Vsvf-m1Vu4qF02VunzCm1",
      "Vvz7T02VwqpQm1VxmpN02Vyl5Cm1Vzh5902V-d3Km1V_Z3H02W7eqgm3W896-W2WZbBMm3Wa49IW2WbD_Am3",
      "Wby7QW2Wd8Gym3Wdq5YW2Wf0F4m3Wfi3gW2WguDCm3WhcLSW2X7Tmcm3X7t7yW2X8-gAm3X9l64W2"],
    none⟩,
  ⟨"America/Argentina/Catamarca", -15788, [-15408, -14400, -10800, -7200],
    [
      "TodAyi0UYaeym1UsUr902Ut6icm1Uu7ez02Uur70m1Uw5tt02UwjQEm1Ux-B502UybjSm1UzsUJ02U-U0gm1",
      "U_knX02V0Me-m1V1dPr02V2EyCm1V3Vj302V47FQm1V5O0H02V5_Yem1V7GJV02V7uAym1V8WPH02VAJQ6m1",
      "VAxeR02VEJVym1VEiEt02VJAJMm1VKGsJ02VqFGWm1Vqd_R02Vr1Mmm1VsCX102Vsvf-m1Vu4qF02VunzCm1",
      "Vvz7T02VwqpQm1VxmpN02Vyl5Cm1Vzh5902V-d3Km1V_Z3H02W7eqgm3W896-W2WZbBMm3Wa49IW2WbD_Am3",
      "Wby7QW2Wd8Gym3Wdq5YW1Wf0Fz03Wfi3gW2WguDCm3WhcLSW2X0k_4m1X0rGl02X7Tmcm3X7t7yW2"],
    none⟩,
  ⟨"America/Argentina/Cordoba", -15408, [-14400, -10800, -7200],
    [
      "UYaeym0UsUr901Ut6icm0Uu7ez01Uur70m0Uw5tt01UwjQEm0Ux-B501UybjSm0UzsUJ01U-U0gm0U_knX01",
      "V0Me-m0V1dPr01V2EyCm0V3Vj301V47FQm0V5O0H01V5_Yem0V7GJV01V7uAym0V8WPH01VAJQ6m0VAxeR01",
      "VEJVym0VEiEt01VJAJMm0VKGsJ01VqFGWm0Vqd_R01Vr1Mmm0VsCX101Vsvf-m0Vu4qF01VunzCm0Vvz7T01",
      "VwqpQm0VxmpN01Vyl5Cm0Vzh5901V-d3Km0V_Z3H01W7eqgm2W896-W1WZbBMm2Wa49IW1WbD_Am2Wby7QW1",
      "Wd8Gym2Wdq5YW0Wf0Fz02Wfi3gW1WguDCm2WhcLSW1X7Tmcm2X7t7yW1X8-gAm2X9l64W1"],
    none⟩,
  ⟨"America/Argentina/Jujuy", -15672, [-15408, -14400, -10800, -7200],
    [
      "TodAwu0UYaeym1UsUr902Ut6icm1Uu7ez02Uur70m1Uw5tt02UwjQEm1Ux-B502UybjSm1UzsUJ02U-U0gm1",
      "U_knX02V0Me-m1V1dPr02V2EyCm1V3Vj302V47FQm1V5O0H02V5_Yem1V7GJV02V7uAym1V8WPH02VAJQ6m1",
      "VAxeR02VEJVym1VEiEt02VJAJMm1VKGsJ02VqFGWm1Vqd_R02Vr1Mmm1VsCX102Vsvf-m1Vu4qF02VunzCm1",
      "Vvz7T02VwqpQm1VxmpN02Vyl5Cm1Vzh5902V-d3Km1V_Z3H02W7eqgm3W896-W2WZbBMm3Wa49IW2WbD_Am3",
      "Wby7QW1WdAbV02Wdujkm1Wexef03Wfi3gW2WguDCm3WhcLSW2X7Tmcm3X7t7yW2"],
    none⟩,
  ⟨"America/Argentina/La_Rioja", -16044, [-15408, -14400, -10800, -7200],
    [
      "TodB0i0UYaeym1UsUr902Ut6icm1Uu7ez02Uur70m1Uw5tt02UwjQEm1Ux-B502UybjSm1UzsUJ02U-U0gm1",
      "U_knX02V0Me-m1V1dPr02V2EyCm1V3Vj302V47FQm1V5O0H02V5_Yem1V7GJV02V7uAym1V8WPH02VAJQ6m1",
      "VAxeR02VEJVym1VEiEt02VJAJMm1VKGsJ02VqFGWm1Vqd_R02Vr1Mmm1VsCX102Vsvf-m1Vu4qF02VunzCm1",
      "Vvz7T02VwqpQm1VxmpN02Vyl5Cm1Vzh5902V-d3Km1V_Z3H02W7eqgm3W896-W2WZbBMm3Wa49IW2WbD_Am3",
      "Wby7QW2Wd8Gym3WdpRMW1We9YP02Wf0F4m3Wfi3gW2WguDCm3WhcLSW2X0k_4m1X0rGl02X7Tmcm3X7t7yW2"],
    none⟩,
  ⟨"America/Argentina/Mendoza", -16516, [-15408, -14400, -10800, -7200],
    [
      "TodB840UYaeym1UsUr902Ut6icm1Uu7ez02Uur70m1Uw5tt02UwjQEm1Ux-B502UybjSm1UzsUJ02U-U0gm1",
      "U_knX02V0Me-m1V1dPr02V2EyCm1V3Vj302V47FQm1V5O0H02V5_Yem1V7GJV02V7uAym1V8WPH02VAJQ6m1",
      "VAxeR02VEJVym1VEiEt02VJAJMm1VKGsJ02VqFGWm1Vqd_R02Vr1Mmm1VsCX102Vsvf-m1Vu4qF02VunzCm1",
      "Vvz7T02VwqpQm1VxmpN02Vyl5Cm1Vzh5902V-d3Km1V_Z3H02W7eqgm3W896-W2WZbBMm3Wa49IW2WbD_Am3",
      "Wby7QW1Wd6JH02WdpSEm1We-cV02Wfi4Ym1WguE503WhcLSW2X0i1Em1X1LZx02X7Tmcm3X7t7yW2"],
    none⟩,
  ⟨"America/Argentina/Rio_Gallegos", -16612, [-15408, -14400, -10800, -7200],
    [
      "TodB9a0UYaeym1UsUr902Ut6icm1Uu7ez02Uur70m1Uw5tt02UwjQEm1Ux-B502UybjSm1UzsUJ02U-U0gm1",
      "U_knX02V0Me-m1V1dPr02V2EyCm1V3Vj302V47FQm1V5O0H02V5_Yem1V7GJV02V7uAym1V8WPH02VAJQ6m1",
      "VAxeR02VEJVym1VEiEt02VJAJMm1VKGsJ02VqFGWm1Vqd_R02Vr1Mmm1VsCX102Vsvf-m1Vu4qF02VunzCm1",
      "Vvz7T02VwqpQm1VxmpN02Vyl5Cm1Vzh5902V-d3Km1V_Z3H02W7eqgm3W896-W2WZbBMm3Wa49IW2WbD_Am3",
      "Wby7QW2Wd8Gym3Wdq5YW2Wf0F4m3Wfi3gW2WguDCm3WhcLSW2X0k_4m1X0rGl02X7Tmcm3X7t7yW2"],
    none⟩,
  ⟨"America/Argentina/Salta", -15700, [-15408, -14400, -10800, -7200],
    [
      "TodAxK0UYaeym1UsUr902Ut6icm1Uu7ez02Uur70m1Uw5tt02UwjQEm1Ux-B502UybjSm1UzsUJ02U-U0gm1",
      "U_knX02V0Me-m1V1dPr02V2EyCm1V3Vj302V47FQm1V5O0H02V5_Yem1V7GJV02V7uAym1V8WPH02VAJQ6m1",
      "VAxeR02VEJVym1VEiEt02VJAJMm1VKGsJ02VqFGWm1Vqd_R02Vr1Mmm1VsCX102Vsvf-m1Vu4qF02VunzCm1",
      "Vvz7T02VwqpQm1VxmpN02Vyl5Cm1Vzh5902V-d3Km1V_Z3H02W7eqgm3W896-W2WZbBMm3Wa49IW2WbD_Am3",
      "Wby7QW2Wd8Gym3Wdq5YW1Wf0Fz03Wfi3gW2WguDCm3WhcLSW2X7Tmcm3X7t7yW2"],
    none⟩,
  ⟨"America/Argentina/San_Juan", -16444, [-15408, -14400, -10800, -7200],
    [
      "TodB6y0UYaeym1UsUr902Ut6icm1Uu7ez02Uur70m1Uw5tt02UwjQEm1Ux-B502UybjSm1UzsUJ02U-U0gm1",
      "U_knX02V0Me-m1V1dPr02V2EyCm1V3Vj302V47FQm1V5O0H02V5_Yem1V7GJV02V7uAym1V8WPH02VAJQ6m1",
      "VAxeR02VEJVym1VEiEt02VJAJMm1VKGsJ02VqFGWm1Vqd_R02Vr1Mmm1VsCX102Vsvf-m1Vu4qF02VunzCm1",
      "Vvz7T02VwqpQm1VxmpN02Vyl5Cm1Vzh5902V-d3Km1V_Z3H02W7eqgm3W896-W2WZbBMm3Wa49IW2WbD_Am3",
      "Wby7QW2Wd8Gym3WdpRMW1We9YP02Wf0F4m3Wfi3gW2WguDCm3WhcLSW2X0kf-m1X10p102X7Tmcm3X7t7yW2"],
    none⟩,
  ⟨"America/Argentina/San_Luis", -15924, [-15408, -14400, -10800, -7200],
    [
      "TodA-q0UYaeym1UsUr902Ut6icm1Uu7ez02Uur70m1Uw5tt02UwjQEm1Ux-B502UybjSm1UzsUJ02U-U0gm1",
      "U_knX02V0Me-m1V1dPr02V2EyCm1V3Vj302V47FQm1V5O0H02V5_Yem1V7GJV02V7uAym1V8WPH02VAJQ6m1",
      "VAxeR02VEJVym1VEiEt02VJAJMm1VKGsJ02VqFGWm1Vqd_R02Vr1Mmm1VsCX102Vsvf-m1Vu4qF02VunzCm1",
      "Vvz7T02VwqpQm1VxmpN02Vyl5Cm1Vzh5902V-d3Km1V_Z3H02W7eqgm3W896-W2WZbBMm3Wa49IW2WbD_Am3",
      "Wb_QMW1Wd6JH02WdpSEm1WeHnl02X0kf-m1X10p102X7Tmcm3X7a_oW2X7qrAm1X8yNP02X9ipIm1XAqLX02"],
    none⟩,
  ⟨"America/Argentina/Tucuman", -15652, [-15408, -14400, -10800, -7200],
    [
      "TodAwa0UYaeym1UsUr902Ut6icm1Uu7ez02Uur70m1Uw5tt02UwjQEm1Ux-B502UybjSm1UzsUJ02U-U0gm1",
      "U_knX02V0Me-m1V1dPr02V2EyCm1V3Vj302V47FQm1V5O0H02V5_Yem1V7GJV02V7uAym1V8WPH02VAJQ6m1",
      "VAxeR02VEJVym1VEiEt02VJAJMm1VKGsJ02VqFGWm1Vqd_R02Vr1Mmm1VsCX102Vsvf-m1Vu4qF02VunzCm1",
      "Vvz7T02VwqpQm1VxmpN02Vyl5Cm1Vzh5902V-d3Km1V_Z3H02W7eqgm3W896-W2WZbBMm3Wa49IW2WbD_Am3",
      "Wby7QW2Wd8Gym3Wdq5YW1Wf0Fz03Wfi3gW2WguDCm3WhcLSW2X0k_4m1X0oz502X7Tmcm3X7t7yW2X8-gAm3",
      "X9l64W2"],
    none⟩,
  ⟨"America/Argentina/Ushuaia", -16392, [-15408, -14400, -10800, -7200],
    [
      "TodB680UYaeym1UsUr902Ut6icm1Uu7ez02Uur70m1Uw5tt02UwjQEm1Ux-B502UybjSm1UzsUJ02U-U0gm1",
      "U_knX02V0Me-m1V1dPr02V2EyCm1V3Vj302V47FQm1V5O0H02V5_Yem1V7GJV02V7uAym1V8WPH02VAJQ6m1",
      "VAxeR02VEJVym1VEiEt02VJAJMm1VKGsJ02VqFGWm1Vqd_R02Vr1Mmm1VsCX102Vsvf-m1Vu4qF02VunzCm1",
      "Vvz7T02VwqpQm1VxmpN02Vyl5Cm1Vzh5902V-d3Km1V_Z3H02W7eqgm3W896-W2WZbBMm3Wa49IW2WbD_Am3",
      "Wby7QW2Wd8Gym3Wdq5YW2Wf0F4m3Wfi3gW2WguDCm3WhcLSW2X0kKum1X0rGl02X7Tmcm3X7t7yW2"],
    none⟩,
  ⟨"America/Asuncion", -13840, [-14400, -10800],
    [
      "Uu5_MG0W5Azf01W7_F2m0WAptJ01WBbygm0WCiVd01WDUFum0WEaor01WFMZ6m0WGT6301WHP4Em0WILPH01",
      "WJHiYm0WKE1b01WL9_mm0WM6Kp01WN2I-m0WN-e101WOwcCm0WPsxF01WQpEWm0WRlZZ01WShXkm0WTdsn01",
      "WUZqym0WVW9_01WWS8Am0WXOTD01WYKmUm0WZH5X01WaD3im0WbGJj01Wc5Mwm0Wd1hz01Wdzg8m0Wexef01",
      "Wfi4Ym0Wgpxt01WhkGam0Wigwj01WjS0om0WkZDx01WlJ-wm0WmRX901WnDcWm0WoLox01Wp3xAm0WqDn301",
      "Wq-Cym0Ws5lB01WsuUkm0WtzjJ01WumSsm0WvrhR01WweQ-m0WxlzD01WyhxOm0WzSP301W-ZvWm0W_Mgr01",
      "X0Rtem0X1SUv01X2Cwom0X3KT101X44uwm0X5CR901X5yt2m0X76ix01X7qrAm0X8-h301X9ipIm0XAsfB01",
      "XBmJim0XCf__01XDeHqm0XEX-701XFWFym0XGSFv01XHJcmm0XIKE101XJBaum0XKCC901XL3Z0m0XM4AH01",
      "XMzqom0XNy8P01XOrowm0XPq6X01XQjn2m0XRkOJ01XSblAm0XTcMR01XUTjIm0XVUKZ01XWN_4m0XXMIh01",
      "XYFzCm0XZEGp01Xa7xKm0Xb6Ex01Xb_vSm0Xd0Wj01"],
    none⟩,
  ⟨"America/Bahia", -9244, [-10800, -7200],
    [
      "UMgciS0Uu3qdW1Uu_K2W0UvyJGm1UwtdGW0VQEAum1VQw_em0VS6U6m1VSkLaW0VT-nKm1VUczuW0VVtPem1",
      "VWL3CW0Vqb_-m1Vr1LuW0Vsm6Gm1Vt3XwW0VuKImm1VunyKW0Vw2jAm1VwgFYW0Vxx0Om1VyYtsW0WToOum1",
      "WUUDUW0WVe3Mm1WWCy-W0WXWMam1WY2yYW0WZM12m1WZud0W0WbD_Am1WbrCSW0Wd8Gym1WdlUEW0Wf0F4m1",
      "Wfb8iW0WgwWsm1WhQpAW0WimBKm1WjPiGW0Wke9Sm1WlHgOW0WmW7am1Wn7KsW0WoLo2m1Wp1ceW0WqE5Gm1",
      "Wq-C4W0Ws81ym1WspsYW0WtziQm1Wuk8KW0Wvt-Cm1WwZooW0WxoF-m1WyRmwW0Wzn94m1W-Jl2W0XEcaYm1",
      "XFIP8W0"],
    none⟩,
  ⟨"America/Bahia_Banderas", -25260, [-25200, -21600, -18000],
    [
      "UbjkXm0UlyIjm1UsPbPW0UtGJrm1Uu33PW0Uu_ORm1VBwd5W0WnPuGG1WoSnQ00WpHsOG1WqKlY00Wr9qWG1",
      "WsCjg00Wt1oeG1Wu6_S00WuvmmG1Wv-za00WwzHAG1Wxjj400Wyi0gG1Wzkvq00W-Z-oG1W_cty00X0RywG1",
      "X1X9k00X2Jx2G1X3P7s00X4BvAG1X5H5-00X63tIG1X794600X7-94G1X912E00X9s7CG1XAv0M00XBk5KG2",
      "XCpHFm1XDc2a02XEhFNm1XFU0i02XGZDVm1XHOIU02XIRBdm1XJGGc02XKJ9lm1XL8Ek02XMB7tm1XN0Cs02",
      "XO5Pfm1XOuA-02XPzNnm1XQm9602XRrLvm1XSgQu02XTjK1m1XUYP002XVbI9m1XWQN802XXVZxm1XYILG02",
      "XZNY3m1"],
    none⟩,
  ⟨"America/Barbados", -14309, [-14400, -10800, -12600],
    [
      "UIGAbb0VBuylG1VCb8BW0VDrYBG1VEV4tW0VFcwRG2VGPMfW0WE0FBW1WEb8pG0WFbm3W1WGT6xG0WHTkBW1",
      "WIL53G0WJN_zW1WKC3vG0"],
    none⟩,
  ⟨"America/Belem", -11636, [-10800, -7200],
    [
      "UMgdHq0Uu3qdW1Uu_K2W0UvyJGm1UwtdGW0VQEAum1VQw_em0VS6U6m1VSkLaW0VT-nKm1VUczuW0VVtPem1",
      "VWL3CW0Vqb_-m1Vr1LuW0Vsm6Gm1Vt3XwW0VuKImm1VunyKW0Vw2jAm1VwgFYW0Vxx0Om1VyYtsW0WToOum1",
      "WUUDUW0WVe3Mm1WWCy-W0WXWMam1WY2yYW0"],
    none⟩,
  ⟨"America/Belize", -21168, [-21600, -19800, -18000],
    [
      "UJNjcm0UVdplW1UWHL7O0UXVntW1UYBcvO0UZNl_W1Ua3b1O0UbFk7W1UbxZ9O0Ud9_vW1UdpXHO0Uf1-1W1",
      "UfhVPO0Ugvy9W1UhbnBO0UinwHW1UjTlJO0UkfuPW1UlLjRO0UmXsXW1UnDhZO0UoS8JW1Up5fhO0UqK6RW1",
      "UqzdpO0UsC4ZW1UstvbO0Uu42hW1UultjO0Uvy0pW1UwdrrO0UxsIbW1UyVpzO0UzkGjW1U-No5O0U_cErW1",
      "V0FmDO0V1UCzW1V2A1_O0V3MB5W1V4207O0V5E9DW1V5v-FO0V78Q_W1V7nyNO0V90P7W1V9fwVO0VAuNFW1",
      "VBaCHO0VCG2BW2VInd5G0VMAVfW1VMsKhO0VO2TnW1VOkIpO0VPwRvW1VQcGxO0VRqjhW1VSUF3O0VTihpW1",
      "VUMDBO0VVafxW1VWGUzO0VXSe3W1VY8T5O0VZKcBW1Va0RDO0VbCaJW1VbuPLO0Vd6s5W1VdmNTO0Ve-qDW1",
      "VfeLbO0VgsoLW1VhYdNO0VikmTW1VjQbVO0VkckbW1VlIZdO0VmX0NW1VnAXlO0VoO-VW1Vp2VtO0VqGydW1",
      "VqwT_O0Vs8wlW1VsqlnO0Vu0utW1VuijvO0Vvus_W1Vwai1O0Vxp8nW1VySg9O0W7OjjW2W7kT1G0WOON5W2",
      "WOgpTG0"],
    none⟩,
  ⟨"America/Boa_Vista", -14560, [-14400, -10800],
    [
      "UMgd_W0Uu3rVm1Uu_Kwm0UvyK901Uwte8m0VQEBn01VQx0X00VS6U_01VSkMSm0VT-oD01VUc-mm0VVtQX01",
      "VWL44m0Vqc0t01Vr1Mmm0Vsm7901Vt3Yom0VuKJf01VunzCm0Vw2k301VwgGQm0Vxx1H01VyYukm0WToPn01",
      "WUUEMm0WVe4F01WWCzsm0WXWNT01WY2zQm0WtzjJ01Wuk9Cm0Wvt_501WvwHsm0"],
    none⟩,
  ⟨"America/Bogota", -17776, [-18000, -14400],
    ["UOM5Lm0Wg0tDG1WhT8b00"],
    none⟩,
  ⟨"America/Boise", -27889, [-28800, -25200, -21600],
    [
      "TU11h00UUfaYW1UVknMG0UWXYgW1UXclUG0UeHamW1VBYGoG2VIOHW01Vw-7KG2Vxw5W01Vys5SG2Vzo3e01",
      "V-k3aG2V_g1m01W0c1iG2W1X_u01W2T_qG2W3SHg01W4OHcG2W5KFo01W6GFkG2W7CDw01W7iX-G2W94C201",
      "W9hR4G2WAyAA01WBuA6G2WCsRy01WDm8EG2WEkQ401WFgQ0G2WGcOC01WHYO8G2WIUMK01WJQMGG2WKMKS01",
      "WLIKOG2WMEIa01WNAIWG2WO8aM01WP2GeG2WQ0YU01WQyYQG2WRuWc01WSqWYG2WTmUk01WUiUgG2WVeSs01",
      "WWTXqG2WXWQ-01WYLVyG2WZQim01WaDU4G2WbIgu01Wc5SCG2WdAf001Wd_j-G2Wf2d801Wfti6G2WgwbG01",
      "WhlgEG2Wiqt201WjdeMG2WkirA01WlVcUG2WmapI01WnPuGG2WoSnQ01WpHsOG2WqKlY01Wr9qWG2WsCjg01",
      "Wt1oeG2Wu6_S01WuvmmG2Wv-za01WwnkuG2Wxsxi01Wyi0gG2Wzkvq01W-Z-oG2W_cty01X0RywG2X1X9k01",
      "X2Jx2G2X3P7s01X4BvAG2X5H5-01X5yyKG2"],
    some ⟨-25200, -21600, ⟨3, 2, 0, 7200⟩, ⟨11, 1, 0, 7200⟩⟩⟩,
  ⟨"America/Cambridge_Bay", 0, [-25200, -21600, -18000],
    [
      "UXyis00VBYGoG1VIOHW00W4OHcG1W5KFo00W6GFkG1W7CDw00W88DsG1W94C200WA0B-G1WAyAA00WBuA6G1",
      "WCsRy00WDm8EG1WEkQ400WFgQ0G1WGcOC00WHYO8G1WIUMK00WJQMGG1WKMKS00WLIKOG1WMEIa00WNAIWG1",
      "WO8aM00WP2GeG1WQ0YU00WQyYQG1WRuWc00WSqWYG1WTmUk00WUiUgG1WVeSs00WWTXqG1WXWQ-00WYLVyG1",
      "WZQim00WaDU4G1WbIgu00Wc5SCG1WdAf000Wd_j-G1Wf2d800Wfti6G1WgwbG00WhlgEG1Wiqt200WjdeMG1",
      "WkirA00WlVcUG1WmapI00WnPuGG1WoSnQ00WpHsOG1WqKlY00Wr9qWG1WsCjg00Wt1oeG1Wuvlu02Ww1EbG1",
      "Wxsxi00Wyi0gG1Wzkvq00W-Z-oG1W_cty00X0RywG1X1X9k00X2Jx2G1X3P7s00X4BvAG1X5H5-00X5yyKG1"],
    some ⟨-25200, -21600, ⟨3, 2, 0, 7200⟩, ⟨11, 1, 0, 7200⟩⟩⟩,
  ⟨"America/Campo_Grande", -13108, [-14400, -10800],
    [
      "UMgdeq0Uu3rVm1Uu_Kwm0UvyK901Uwte8m0VQEBn01VQx0X00VS6U_01VSkMSm0VT-oD01VUc-mm0VVtQX01",
      "VWL44m0Vqc0t01Vr1Mmm0Vsm7901Vt3Yom0VuKJf01VunzCm0Vw2k301VwgGQm0Vxx1H01VyYukm0WToPn01",
      "WUUEMm0WVe4F01WWCzsm0WXWNT01WY2zQm0WZM1x01WZudum0WbE0301WbrDKm0Wd8Hr01WdlV6m0Wf0Fz01",
      "Wfb9am0WgwXl01WhQq2m0WimCD01WjPj8m0WkeAL01WlHhGm0WmW8T01Wn7Lkm0WoLox01Wp1dWm0WqE6901",
      "Wq-Cym0Ws82r01WsptQm0WtzjJ01Wuk9Cm0Wvt_501WwZpgm0WxoGt01WyRnom0Wzn9z01W-Jlwm0W_aWn01",
      "X0Bk2m0X1XmP01X25_qm0X3KT101X3zzym0X5JM701X5uFkm0X74PH01X7jwCm0X8-h301X9buKm0XAsfB01",
      "XBWA6m0XCkdJ01XDO8Em0XEcbR01XFIQ0m0XGWtD01XH84Um0XIOrL01XJ02cm0XKGpT01XKwKOm0XM8nb01",
      "XMoIWm0XO0lj01XOgGem0XPujr01XQYEmm0XRtcx01XSQCum0"],
    none⟩,
  ⟨"America/Cancun", -20824, [-21600, -18000, -14400],
    [
      "UbjjfW0WMYkO01WOTypG0WnPtO01WoSmXm0WpHrW01Wr9olm2Wrn01W1WsCinm0Wt1nm01Wu6-Zm0Wuvlu01",
      "Wv-yhm0WwzGI01WxjiBm0Wyh_o01Wzkuxm0W-Zzw01W_ct3m0X0Ry201X1X8rm0X2JwA01X3P6zm0X4BuI01",
      "X5H55m0X63sQ01X793Dm0X7-8C01X911Lm0X9s6K01XAu_Tm0XBk4S01XCpHFm0XDc2a01XEhFNm0XFU0i01",
      "XGZDVm0XHOIU01XIRBdm0XJGGc01XKJ9lm0XKpTq01"],
    none⟩,
  ⟨"America/Caracas", -16064, [-16060, -16200, -14400],
    ["TfXnf00UJ7Ymy1VscEn82X7Mv9m1XN9Qbm2"],
    none⟩,
  ⟨"America/Cayenne", -12560, [-14400, -10800],
    ["UHz2kG0VxmpN01"],
    none⟩,
  ⟨"America/Chicago", -21036, [-21600, -18000],
    [
      "TU0_wW0UUfYo01UVklbm0UWXWw01UXcjjm0UYotG01UZW_Vm0UaHTA01UbOzdm0UcKza01Ud5PTm0UeCxi01",
      "Ue_hFm0Ug4vq01UgtfNm0Uhyty01UildVm0Ujqs401Ukdbdm0UliqC01UmVZlm0Und5-01UoPrXm0UpV4601",
      "UqHpfm0UrN2E01Us9nnm0UtF0M01Uu1lvm0Uv6-U01Uvvk1m0Ux1GG01Uxni9m0UyvEO01Uzhzxm0U-nCW01",
      "U_Zy3m0V0MjO01V1i3nm0V2X8m01V3JuJm0V4P6u01V5BsRm0V6JOg01V73qZm0V8BMo01V8-6Lm0VA3Kw01",
      "VAs4Tm0VBYFw01VIOGdm0VJTVC01VKGElm0VLLTK01VM8Ctm0VNDRS01VO0A_m0VP5Pa01VPu97m0VQ_hM01",
      "VRm7Fm0VStfU01VTgP1m0VUldc01VVYN9m0VWdbk01VXQLHm0VYVZs01VZIJPm0VaNX-01VbLppm0VcHpm01",
      "VdDnxm0Ve9nu01Vf5m3m0Vg1m001VgzkBm0Vhvk801ViriJm0VjniG01Vkl-5m0Vlh-201VmdyDm0VnZyA01",
      "VoVwLm0VpRwI01VqNuTm0VrJuQ01VsFsbm0VtBsY01VuA8Nm0Vv3qg01Vw26Vm0Vw-6S01Vxw4dm0Vys4a01",
      "Vzo2lm0V-k2i01V_g0tm0W0c0q01W1X-_m0W2T-y01W3SGnm0W4OGk01W5KEvm0W6GEs01W7CD1m0W7ZIU01",
      "W94B9m0W9hQC01WAy9Hm0WBu9E01WCsR3m0WDm7M01WEkPBm0WFgP801WGcNJm0WHYNG01WIULRm0WJQLO01",
      "WKMJZm0WLIJW01WMEHhm0WNAHe01WO8ZTm0WP2Fm01WQ0Xbm0WQyXY01WRuVjm0WSqVg01WTmTrm0WUiTo01",
      "WVeRzm0WWTWy01WXWQ5m0WYLV401WZQhtm0WaDTC01WbIf_m0Wc5RK01WdAe7m0Wd_j601Wf2cFm0WfthE01",
      "WgwaNm0WhlfM01Wiqs9m0WjddU01WkiqHm0WlVbc01WmaoPm0WnPtO01WoSmXm0WpHrW01WqKkfm0Wr9pe01",
      "WsCinm0Wt1nm01Wu6-Zm0Wuvlu01Wv-yhm0Wwnk001Wxswpm0Wyh_o01Wzkuxm0W-Zzw01W_ct3m0X0Ry201",
      "X1X8rm0X2JwA01X3P6zm0X4BuI01X5H55m0X5yxS01"],
    some ⟨-21600, -18000, ⟨3, 2, 0, 7200⟩, ⟨11, 1, 0, 7200⟩⟩⟩,
  ⟨"America/Chihuahua", -25460, [-25200, -21600, -18000],
    [
      "UbjkXm0UlyIjm1UsPbPW0UtGJrm1Uu33PW0Uu_ORm1WnPtO02WoSmXm1WpHrW02WqKkfm1WsCjg00Wt1oeG1",
      "Wu6_S00WuvmmG1Wv-za00WwzHAG1Wxjj400Wyi0gG1Wzkvq00W-Z-oG1W_cty00X0RywG1X1X9k00X2Jx2G1",
      "X3P7s00X4BvAG1X5H5-00X63tIG1X794600X7-94G1X912E00X9s7CG1XAv0M00XBk5KG1XCpI800XDc3SG1",
      "XEhGG00XFU1aG1XGZEO00XHOJMG1XIRCW00XJGHUG1XKJAe00XL8FcG1XMB8m00XN0DkG1XO5QY00XOuBsG1",
      "XPzOg00XQm9-G1XRrMo00XSgRmG1XTjKw00XUYPuG1XVbJ200XWQO0G1XXVaq00XYIM8G1"],
    none⟩,
  ⟨"America/Ciudad_Juarez", -25556, [-25200, -21600, -18000],
    [
      "UbjkXm0UlyIjm1UsPbPW0UtGJrm1Uu33PW0Uu_ORm1WnPtO02WoSmXm1WpHrW02WqKkfm1WsCjg00Wt1oeG1",
      "Wu6_S00WuvmmG1Wv-za00WwzHAG1Wxjj400Wyi0gG1Wzkvq00W-Z-oG1W_cty00X0RywG1X1X9k00X2Jx2G1",
      "X3P7s00X4BvAG1X5H5-00X63tIG1X794600X7-94G1X912E00X9s7CG1XAv0M00XBdAMG1XCrbo00XDV8UG1",
      "XEjZw00XFN6cG1XGbY200XHF4kG1XITWA00XJ72sG1XKLUI00XK_0-G1XMDSQ00XMvImG1XO7kC00XOnGuG1",
      "XP_iK00XQfF0G1XRtgS00XSXD8G1XTlea00XUPBGG1XVdci00XWJT2G1XXXuU00XYBRAG1XZXl5W0Xa3PIG1"],
    some ⟨-25200, -21600, ⟨3, 2, 0, 7200⟩, ⟨11, 1, 0, 7200⟩⟩⟩,
  ⟨"America/Costa_Rica", -20173, [-21600, -18000],
    ["UZw1PD0WHDabW1WHjsvG0WJ5YjW1WJbr1G0Wdb-1W1WeRhRG0WfTy9W1WfmjdG0"],
    none⟩,
  ⟨"America/Coyhaique", -17296, [-16965, -18000, -14400, -10800],
    [
      "TfXnyG0UFC4T51URNELG0UVVEB52UX07700UmNdV52UnTpr01UoGG3G2UpM7301Uq8ZHG2UrEQH01Us0sVG2",
      "Ut6jV01Utv9jG2Uu_Lp01Uvno1G2VC76v01VCREVG2VLCrN01VLTf902VzqJn03V-algm2V_pCt03W0Sjom2",
      "W1TL303W2G4cm2W3LJB03W482km2W5Faz03W600sm2W72xn03W7t--m2W8_XD03W9lz6m2WAtVL03WBgEum2",
      "WClTT03WDYD0m2WEdRb03WFQB8m2WGXjN03WHI9Gm2WIPhV03WJA7Om2WKHfd03WL4PAm2WM9dl03WMyNIm2",
      "WO1bt03WOqLQm2WPvZ_03WQiJYm2WRprn03WSaHgm2WThpv03WUSFom2WVZo103WWVmCm2WXRm903WYEVim2",
      "WZJkH03Wa6Tqm2WbE0303Wb-Rym2WcylZ03WdsQ4m2WezyJ03Wfmhsm2WgrwR03Whef-m2WijuZ03WjWe6m2",
      "Wkbsh03WlOcEm2WmW8T03WnGaMm2WoO6b03WpFTSm2WqG4j03Wr2qGm2Ws3RX03Wt1jMm2Wu00z03WuomWm2",
      "WvwIl03Wwgkem2WxoGt03WyYimm2WzgE_03W-Qgum2W_YD703X0Kygm2X1QBF03X2Cwom2X3I9N03X44uwm2",
      "X5CR903X5yt2m2X74PH03X7xm8m2X8yNP03X9l6ym2XAqLX03XBk02m2XCiJf03XDnWSm2XEK8B03XFdAwm2",
      "XGGjd03XHV92m2XIA_P03XJN7Am2XK2zX03XND-Om2XNh-p03XP5yWm2XPZyx03XQzwem2XRRx303XSgMUm2",
      "XTT7p03XUYKcm2XVL5x03XWQIkm2XXD4303XYIGsm2XZ7Lr03XaAE-m2Xaz0J03Xc4Wmm2XctI503"],
    none⟩,
  ⟨"America/Cuiaba", -13460, [-14400, -10800],
    [
      "UMgdkK0Uu3rVm1Uu_Kwm0UvyK901Uwte8m0VQEBn01VQx0X00VS6U_01VSkMSm0VT-oD01VUc-mm0VVtQX01",
      "VWL44m0Vqc0t01Vr1Mmm0Vsm7901Vt3Yom0VuKJf01VunzCm0Vw2k301VwgGQm0Vxx1H01VyYukm0WToPn01",
      "WUUEMm0WVe4F01WWCzsm0WXWNT01WY2zQm0WZM1x01WZudum0WbE0301WbrDKm0Wd8Hr01WdlV6m0Wf0Fz01",
      "Wfb9am0WgwXl01WhQq2m0WimCD01WjPj8m0WkeAL01WlHhGm0WmW8T01Wn7Lkm0WoLox01Wp1dWm0WqE6901",
      "Wq-Cym0Ws82r01WsptQm0WtzjJ01Wuk9Cm0Wvt_501WwZpgm0WxoGt01WyRnom0Wzn9z01W-Jlwm0X1XmP01",
      "X25_qm0X3KT101X3zzym0X5JM701X5uFkm0X74PH01X7jwCm0X8-h301X9buKm0XAsfB01XBWA6m0XCkdJ01",
      "XDO8Em0XEcbR01XFIQ0m0XGWtD01XH84Um0XIOrL01XJ02cm0XKGpT01XKwKOm0XM8nb01XMoIWm0XO0lj01",
      "XOgGem0XPujr01XQYEmm0XRtcx01XSQCum0"],
    none⟩,
  ⟨"America/Danmarkshavn", -4480, [-10800, -7200, 0],
    [
      "URW4a00WJJNnG1WKC_gG0WL8-kG1WM4zoG0WN0ysG1WNyxwG0WOuw-G1WPqw2G0WQmv6G1WRlBqG0WShAuG1",
      "WTd9yG0WUZ90G1WVV84G0WWR78G1WXN6CG0WYJ5GG1WZF4KG0WaB3OG1Wb72SG0Wc31WG1Wd1KEG0WdzJIG1",
      "WevIMG0WfrHQG1WgnGUG0WhjFYG1WifEcG0WjbDgG1WkXCkG0WlTBoG1WmPAsG0Wmvqum2"],
    none⟩,
  ⟨"America/Dawson", -33460, [-32400, -28800, -25200],
    [
      "TzXewq0UUkCkm1UVkoEW0UWq0om1UXejA00VBYIYm1VIOJGW0VtBtQG2VuAA8G0W7CEoG1WJQN8W2WKMLKG1",
      "WLILGW2WMEJSG1WNAJOW2WO8bEG1WP2HWW2WQ0ZMG1WQyZIW2WRuXUG1WSqXQW2WTmVcG1WUiVYW2WVeTkG1",
      "WWTYiW2WXWRsG1WYLWqW2WZQjeG1WaDUyW2WbIhmG1Wc5T4W2WdAfuG1Wd_ksW2Wf2e0G1Wfti-W2Wgwc8G1",
      "Whlh6W2WiqtwG1WjdfEW2Wkis2G1WlVdMW2WmaqAG1WnPv8W2WoSoIG1WpHtGW2WqKmQG1Wr9rOW2WsCkYG1",
      "Wt1pWW2Wu70KG1WuvneW2Wv--SG1WwnlmW2WxsyaG1Wyi1YW2WzkwiG1W-Z_gW2W_cuqG1X0RzoW2X1XAcG1",
      "X2JxwW2X3P8kG1X4Bw2W2X5H6sG1X5yzCW2X7BOeG1X7qxKW2X93MmG1X9ivSW2XAxKuG1XBdBEW2XCrcgG1",
      "XDV9MW2XEjaoG1XFN7UW2XGbYwG1XHF5cW2XITX2G1XJ73kW2XKLVAG1XK_1sW2XMDTIG1XMvJeW2XO7l4G1",
      "XOnHmW2XP_jCG1XQfFuW2XRthKG1XSXE0W2XTlfSG1XUPC8W2"],
    none⟩,
  ⟨"America/Dawson_Creek", -28856, [-28800, -25200],
    [
      "TUFNGu0UUkBsW1UVknMG0VBYHgW1VIOIOG0VLLV4W1VM8EeG0VNDTCW1VO0CmG0VP5RKW1VPuAuG0VQ_j6W1",
      "VRm90G0VSthEW1VTgQoG0VUlfMW1VVYOwG0VWddUW1VXQN2G0VYVbcW1VZILAG0VaNZkW1VbAJIG0VcHrWW1",
      "Vd4b4G0Ve9peW1VeyZCG0Vg1nmW1VgqXKG0VhvluW1ViiVSG0Vjnk0W1VkaTaG0Vlh_oW1VmSRiG0VnZzwW1",
      "VoVy6G0VpRy2W1VqNwEG0VrJwAW1VsFuMG0VtBuIW1VuAA8G0Vv3sQW1Vw28GG0Vw-8CW1Vxw6OG0Vys6KW1",
      "Vzo4WG0V-k4SW1V_g2eG0W0c2aW1W1Y0mG0W2U0iW1W3SIYG0W4OIUW1"],
    none⟩,
  ⟨"America/Denver", -25196, [-25200, -21600],
    [
      "TU10om0UUfZgG1UVkmU00UWXXoG1UXckc00UYPVwG1UZX0O00UaHU2G1UaZwQ00VBYGoG1VIOHW00VtBtQG1",
      "VuA9G00Vv3rYG1Vw27O00Vw-7KG1Vxw5W00Vys5SG1Vzo3e00V-k3aG1V_g1m00W0c1iG1W1X_u00W2T_qG1",
      "W3SHg00W4OHcG1W5KFo00W6GFkG1W7CDw00W7ZJMG1W94C200W9hR4G1WAyAA00WBuA6G1WCsRy00WDm8EG1",
      "WEkQ400WFgQ0G1WGcOC00WHYO8G1WIUMK00WJQMGG1WKMKS00WLIKOG1WMEIa00WNAIWG1WO8aM00WP2GeG1",
      "WQ0YU00WQyYQG1WRuWc00WSqWYG1WTmUk00WUiUgG1WVeSs00WWTXqG1WXWQ-00WYLVyG1WZQim00WaDU4G1",
      "WbIgu00Wc5SCG1WdAf000Wd_j-G1Wf2d800Wfti6G1WgwbG00WhlgEG1Wiqt200WjdeMG1WkirA00WlVcUG1",
      "WmapI00WnPuGG1WoSnQ00WpHsOG1WqKlY00Wr9qWG1WsCjg00Wt1oeG1Wu6_S00WuvmmG1Wv-za00WwnkuG1",
      "Wxsxi00Wyi0gG1Wzkvq00W-Z-oG1W_cty00X0RywG1X1X9k00X2Jx2G1X3P7s00X4BvAG1X5H5-00X5yyKG1"],
    some ⟨-25200, -21600, ⟨3, 2, 0, 7200⟩, ⟨11, 1, 0, 7200⟩⟩⟩,
  ⟨"America/Detroit", -19931, [-21600, -18000, -14400],
    [
      "U5lI9R0UPF9G01VBYF1m2VIOFlW1VNDQZm2VO0A7W1VxCv2C2Vxw3lW1Vys3hm2Vzo1tW1W6GDzm2W7CC9W1",
      "W7ZHbm2W94AHW1WA0ADm2WAy8PW1WBu8Lm2WCsQBW1WDm6Tm2WEkOJW1WFgOFm2WGcMRW1WHYMNm2WIUKZW1",
      "WJQKVm2WKMIhW1WLIIdm2WMEGpW1WNAGlm2WO8YbW1WP2Etm2WQ0WjW1WQyWfm2WRuUrW1WSqUnm2WTmSzW1",
      "WUiSvm2WVeR5W1WWTW3m2WXWPDW1WYLUBm2WZQg_W1WaDSJm2WbIf7W1Wc5QRm2WdAdFW1Wd_iDm2Wf2bNW1",
      "WftgLm2WgwZVW1WhleTm2WiqrHW1Wjdcbm2WkipPW1WlVajm2WmanXW1WnPsVm2WoSlfW1WpHqdm2WqKjnW1",
      "Wr9olm2WsChvW1Wt1mtm2Wu6zhW1Wuvk_m2Wv-xpW1Wwnj7m2WxsvxW1Wyh-vm2Wzku3W1W-Zz1m2W_csBW1",
      "X0Rx9m2X1X7zW1X2JvHm2X3P65W1X4BtPm2X5H4DW1X5ywZm2"],
    some ⟨-18000, -14400, ⟨3, 2, 0, 7200⟩, ⟨11, 1, 0, 7200⟩⟩⟩,
  ⟨"America/Edmonton", -27232, [-25200, -21600],
    [
      "U8tixW0UUkA-G1UVkmU00UWc96G1UWqeM00UYYkYG1UZX0O00UaQigG1UbDSE00UcK-SG1Ud5QM00UeCyaG1",
      "Ue_i800VBYGoG1VIOHW00VLLUCG1VM8Dm00W4OHcG1W5KFo00W6GFkG1W7CDw00W88DsG1W94C200WA0B-G1",
      "WAyAA00WBuA6G1WCsRy00WDm8EG1WEkQ400WFgQ0G1WGcOC00WHYO8G1WIUMK00WJQMGG1WKMKS00WLIKOG1",
      "WMEIa00WNAIWG1WO8aM00WP2GeG1WQ0YU00WQyYQG1WRuWc00WSqWYG1WTmUk00WUiUgG1WVeSs00WWTXqG1",
      "WXWQ-00WYLVyG1WZQim00WaDU4G1WbIgu00Wc5SCG1WdAf000Wd_j-G1Wf2d800Wfti6G1WgwbG00WhlgEG1",
      "Wiqt200WjdeMG1WkirA00WlVcUG1WmapI00WnPuGG1WoSnQ00WpHsOG1WqKlY00Wr9qWG1WsCjg00Wt1oeG1",
      "Wu6_S00WuvmmG1Wv-za00WwnkuG1Wxsxi00Wyi0gG1Wzkvq00W-Z-oG1W_cty00X0RywG1X1X9k00X2Jx2G1",
      "X3P7s00X4BvAG1X5H5-00X5yyKG1"],
    some ⟨-25200, -21600, ⟨3, 2, 0, 7200⟩, ⟨11, 1, 0, 7200⟩⟩⟩,
  ⟨"America/Eirunepe", -16768, [-18000, -14400],
    [
      "UMgeY00Uu3sO01Uu_Lp00UvyL1G1Uwtf100VQECfG1VQx1PG0VS6VtG1VSkNL00VT-p5G1VUc_f00VVtRPG1",
      "VWL4z00Vqc1lG1Vr1Nf00Vsm81G1Vt3Zh00VuKKXG1Vun-500Vw2kxG1VwgHJ00Vxx29G1VyYvd00WToQfG1",
      "WUUFF00WVe57G1WWC-l00WXWOLG1WY2-J00WimD5G1WjPk100X8O7zG1XIVmJ00"],
    none⟩,
  ⟨"America/El_Salvador", -21408, [-21600, -18000],
    ["UZrQOW0WWcjpW1WXN9jG0WYUhxW1WZF7rG0"],
    none⟩,
  ⟨"America/Fort_Nelson", -29447, [-28800, -25200],
    [
      "TUFNQ70UUkBsW1UVknMG0VBYHgW1VIOIOG0VLLV4W1VM8EeG0VNDTCW1VO0CmG0VP5RKW1VPuAuG0VQ_j6W1",
      "VRm90G0VSthEW1VTgQoG0VUlfMW1VVYOwG0VWddUW1VXQN2G0VYVbcW1VZILAG0VaNZkW1VbAJIG0VcHrWW1",
      "Vd4b4G0Ve9peW1VeyZCG0Vg1nmW1VgqXKG0VhvluW1ViiVSG0Vjnk0W1VkaTaG0Vlh_oW1VmSRiG0VnZzwW1",
      "VoVy6G0VpRy2W1VqNwEG0VrJwAW1VsFuMG0VtBuIW1VuAA8G0Vv3sQW1Vw28GG0Vw-8CW1Vxw6OG0Vys6KW1",
      "Vzo4WG0V-k4SW1V_g2eG0W0c2aW1W1Y0mG0W2U0iW1W3SIYG0W4OIUW1W5KGgG0W6GGcW1W7CEoG0W88EkW1",
      "W94CwG0WA0CsW1WAyB2G0WBuA-W1WCsSqG0WDm96W1WEkQyG0WFgQuW1WGcP4G0WHYP0W1WIUNCG0WJQN8W1",
      "WKMLKG0WLILGW1WMEJSG0WNAJOW1WO8bEG0WP2HWW1WQ0ZMG0WQyZIW1WRuXUG0WSqXQW1WTmVcG0WUiVYW1",
      "WVeTkG0WWTYiW1WXWRsG0WYLWqW1WZQjeG0WaDUyW1WbIhmG0Wc5T4W1WdAfuG0Wd_ksW1Wf2e0G0Wfti-W1",
      "Wgwc8G0Whlh6W1WiqtwG0WjdfEW1Wkis2G0WlVdMW1WmaqAG0WnPv8W1WoSoIG0WpHtGW1WqKmQG0Wr9rOW1",
      "WsCkYG0Wt1pWW1Wu70KG0WuvneW1Wv--SG0WwnlmW1WxsyaG0Wyi1YW1WzkwiG0W-Z_gW1W_cuqG0X0RzoW1",
      "X1XAcG0X2JxwW1X3P8kG0X4Bw2W1X5H6sG0X5yzCW1X7BOeG0X7qxKW1X93MmG0X9ivSW1XAxKuG0XBdBEW1",
      "XCrcgG0XDV9MW1XEjaoG0XFN7UW1XGbYwG0XHF5cW1XITX2G0XJ73kW1XKLVAG0XK_1sW1"],
    none⟩,
  ⟨"America/Fortaleza", -9240, [-10800, -7200],
    [
      "UMgciO0Uu3qdW1Uu_K2W0UvyJGm1UwtdGW0VQEAum1VQw_em0VS6U6m1VSkLaW0VT-nKm1VUczuW0VVtPem1",
      "VWL3CW0Vqb_-m1Vr1LuW0Vsm6Gm1Vt3XwW0VuKImm1VunyKW0Vw2jAm1VwgFYW0Vxx0Om1VyYtsW0WToOum1",
      "WUUDUW0WVe3Mm1WWCy-W0WXWMam1WY2yYW0WZM12m1WZud0W0WbD_Am1WbrCSW0WtziQm1Wuk8KW0Wvt-Cm1",
      "WvyaeW0WxoF-m1WyRmwW0"],
    none⟩,
  ⟨"America/Glace_Bay", -14388, [-14400, -10800],
    [
      "U0yQWq0UUk8LW1UVkjrG0VBYE9W1VIOEtG0VWdZzW1VXQJXG0W4OEzW1W5KD9G0W6GD5W1W7CBHG0W88BDW1",
      "W949PG0WA09LW1WAy7XG0WBu7TW1WCsPJG0WDm5bW1WEkNRG0WFgNNW1WGcLZG0WHYLVW1WIUJhG0WJQJdW1",
      "WKMHpG0WLIHlW1WMEFxG0WNAFtW1WO8XjG0WP2D_W1WQ0VrG0WQyVnW1WRuTzG0WSqTvW1WTmS5G0WUiS1W1",
      "WVeQDG0WWTVBW1WXWOLG0WYLTJW1WZQg7G0WaDRRW1WbIeFG0Wc5PZW1WdAcNG0Wd_hLW1Wf2aVG0WftfTW1",
      "WgwYdG0WhldbW1WiqqPG0WjdbjW1WkioXG0WlVZrW1WmamfG0WnPrdW1WoSknG0WpHplW1WqKivG0Wr9ntW1",
      "WsCh1G0Wt1l_W1Wu6ypG0Wuvk7W1Wv-wxG0WwniFW1Wxsv3G0Wyh-1W1WzktBG0W-Zy9W1W_crJG0X0RwHW1",
      "X1X75G0X2JuPW1X3P5DG0X4BsXW1X5H3LG0X5yvhW1"],
    some ⟨-14400, -10800, ⟨3, 2, 0, 7200⟩, ⟨11, 1, 0, 7200⟩⟩⟩,
  ⟨"America/Goose_Bay", -14500, [-12652, -9052, -12600, -9000, -14400, -10800, -7200],
    [
      "TUFJma0UUk7wC1UVkjPy0U-dari2V0k34u3V1UU-e2V2c1Cu3V3MT6e2V4T_Ku3V5EREe2V6OH6u3V76PMe2",
      "V8GFEu3V90h8e2VA8DMu3VAufGe2VC0BUu3VIOER82VJY4JO3VKIWD82VLQ2RO3VMAUL82VNI0ZO3VO2ST82",
      "VP9-hO3VPwQb82VR4GTO3VRqiN82VStdHO3VTgMr82VUlbPO3VVYKz82VWdZXO3VXQJ582VYVXfO3VZIHD82",
      "VaNVnO3VbAFL82VcHnZO3Vd4X782Ve9lhO3VeyVF82Vg1jpO3VgqTN82VhvhxO3ViiRV82Vjng3O3Vklxv82",
      "VlhxrO3Vmdw182VnZvzO3VoVu982VpRu5O3VqNsH82VrJsDO3VsFqP82VtBqLO3VuA6B82VuscjO4Vv3ovW5",
      "Vw24lG4Vw-4hW5Vxw2tG4Vys2pW5Vzo0_G4V-k0xW5V_f_7G4W0b_3W5W1XzFG4W2TzBW5W3SF1G4W4OEzW5",
      "W5KD9G4W6GD5W5W7CBHG4W88BDW5W949PG4WA09LW5WAy7XG4WBu7TW5WCsPJG4WDm5bW5WEkNRG4WFgNNW5",
      "WGcLZG4WHYLVW5WIUJhG4WJQJdW5WKMHpG4WLIHlW5WMEFxG4WNAFtW5WO8XjG4WP2D_W5WQ0VrG4WQyVnW5",
      "WRuTzG4WSqTvW5WTmS5G4WUiS1W5WVeQDG4WWTTRy5WXWMbi4WYLRZy6WZQdVS4WaDPhy5WbIcVi4Wc5Npy5",
      "WdAadi4Wd_fby5Wf2Yli4Wftdjy5WgwWti4Whlbry5Wiqofi4WjdZzy5Wkimni4WlVY5y5Wmakvi4WnPpty5",
      "WoSj1i4WpHn_y5WqKh9i4Wr9m7y5WsCfHi4Wt1kFy5Wu6x3i4WuviNy5Wv-vBi4WwngVy5WxstJi4WyhyHy5",
      "WzkrRi4W-ZwPy5W_cpZi4X0RuXy5X1X5Li4X2Jsfy5X3P3Ti4X4Bqny5X5H1bi4X5ytxy5X7BJNi4X7qs3y5",
      "X93HVi4X9iqBy5XAxFdi4XBd5zy5XCrXPi4XDV45y5XEjXHG4"],
    some ⟨-14400, -10800, ⟨3, 2, 0, 7200⟩, ⟨11, 1, 0, 7200⟩⟩⟩,
  ⟨"America/Grand_Turk", -17072, [-18430, -18000, -14400],
    [
      "TfXnum0UJ3xJ-1WHYMNm2WIUKZW1WJQKVm2WKMIhW1WLIIdm2WMEGpW1WNAGlm2WO8YbW1WP2Etm2WQ0WjW1",
      "WQyWfm2WRuUrW1WSqUnm2WTmSzW1WUiSvm2WVeR5W1WWTW3m2WXWPDW1WYLUBm2WZQg_W1WaDSJm2WbIf7W1",
      "Wc5QRm2WdAdFW1Wd_iDm2Wf2bNW1WftgLm2WgwZVW1WhleTm2WiqrHW1Wjdcbm2WkipPW1WlVajm2WmanXW1",
      "WnPsVm2WoSlfW1WpHqdm2WqKjnW1Wr9olm2WsChvW1Wt1mtm2Wu6zhW1Wuvk_m2Wv-xpW1Wwnj7m2WxsvxW1",
      "Wyh-vm2Wzku3W1W-Zz1m2W_csBW1X0Rx9m2X1X7zW1X2JvHm2X3P65W1X4BtPm2X5H4DW1X5ywZm2X7BL_W1",
      "X7quhm2X93K7W1X9ispm2XAxIFW1XBd8bm2XCra1W1XDV6jm2XEjY9W1XFN4rm2XGbWHW1XHF2zm2XITUPW1",
      "XJ715m2XKLSXW1XK-_Dm2XRtehW1"],
    some ⟨-18000, -14400, ⟨3, 2, 0, 7200⟩, ⟨11, 1, 0, 7200⟩⟩⟩,
  ⟨"America/Guatemala", -21724, [-21600, -18000],
    ["UVdUhS0W7LQnW1W7pPRG0WPB7XW1WPp-HG0WdwkxW1Weo5pG0X4L59W1X57qjG0"],
    none⟩,
  ⟨"America/Guayaquil", -19160, [-18840, -18000, -14400],
    ["TfXoPO0Usf48O1Wh5lpG2WhSUP01"],
    none⟩,
  ⟨"America/Guyana", -13959, [-14400, -13500, -10800],
    ["UI7G-70UOsNj01WAVmMy2WfrK300"],
    none⟩,
  ⟨"America/Halifax", -15264, [-14400, -10800],
    [
      "U0yQkW0UQvDx01URrXCm0UUk8LW1UVkjrG0UYdHT01UZCB4m0UaUbP01Ub6nym0UcKw301Uc_5Am0UeFBr01",
      "Uet3Im0Ug79z01UgpJem0Uh_8501Uilv4m0UjxjX01UkZFum0Ull4L01UmVrKm0Unhfn01UoIt2m0UpZdv01",
      "Uq9Bim0UrRc101Us5S2m0UtJa901Uu21Um0Uv9Ed01Uvv_cm0Ux1Cl01UxqHOm0Uz05r01UzdJ6m0U-yhH01",
      "U_aDem0V0q-V01V1NaSm0V2ZOv01V3K9um0V4RN101V5C80m0V6SZn01V7468m0V8Dcx01V8-Nwm0VA5b301",
      "VAsM2m0VBYE9W1VIOEtG0VJTTRW1VKGC_G0VLLRZW1VM8B7G0VNDPhW1VO09FG0VP5NpW1VPu7NG0VStdjW1",
      "VTgNHG0VUlbrW1VVYLPG0VWdZzW1VXQJXG0VYVY5W1VZIHfG0VcHn_W1Vd4XZG0Ve9m7W1VeyVhG0Vg1kFW1",
      "VgqTpG0VhviNW1ViiRxG0VnZwPW1VoVubG0VpRuXW1VqNsjG0VrJsfW1VsFqrG0VtBqnW1VuA6dG0Vv3ovW1",
      "Vw24lG0Vw-4hW1Vxw2tG0Vys2pW1Vzo0_G0V-k0xW1V_f_7G0W0b_3W1W1XzFG0W2TzBW1W3SF1G0W4OEzW1",
      "W5KD9G0W6GD5W1W7CBHG0W88BDW1W949PG0WA09LW1WAy7XG0WBu7TW1WCsPJG0WDm5bW1WEkNRG0WFgNNW1",
      "WGcLZG0WHYLVW1WIUJhG0WJQJdW1WKMHpG0WLIHlW1WMEFxG0WNAFtW1WO8XjG0WP2D_W1WQ0VrG0WQyVnW1",
      "WRuTzG0WSqTvW1WTmS5G0WUiS1W1WVeQDG0WWTVBW1WXWOLG0WYLTJW1WZQg7G0WaDRRW1WbIeFG0Wc5PZW1",
      "WdAcNG0Wd_hLW1Wf2aVG0WftfTW1WgwYdG0WhldbW1WiqqPG0WjdbjW1WkioXG0WlVZrW1WmamfG0WnPrdW1",
      "WoSknG0WpHplW1WqKivG0Wr9ntW1WsCh1G0Wt1l_W1Wu6ypG0Wuvk7W1Wv-wxG0WwniFW1Wxsv3G0Wyh-1W1",
      "WzktBG0W-Zy9W1W_crJG0X0RwHW1X1X75G0X2JuPW1X3P5DG0X4BsXW1X5H3LG0X5yvhW1"],
    some ⟨-14400, -10800, ⟨3, 2, 0, 7200⟩, ⟨11, 1, 0, 7200⟩⟩⟩,
  ⟨"America/Havana", -19768, [-19776, -18000, -14400],
    [
      "TfXoYu0UiOiA01UnqvHG2UoT5r01V8MsRG2V8qr501VAEqZG2VAl6t01VC96LG2VCd4_01VHn0jG2VIE_N01",
      "VJe-rG2VK6zV01VtO0NG2Vt_tr01VvFKJG2VvurF01VwsplG2VxfuP01VynQdG2VzXsX01V-k03G2V_f-F01",
      "W0b-BG2W1XyN01W2TyJG2W3SE901W4OE5G2W5DHJ01W6GCDG2W75aX01W88ALG2W8ztl01WA08TG2WAy6f01",
      "WBu6bG2WCsOR01WDm4jG2WEkMZ01WFig9G2WGVPj01WHKUhG2WIPhV01WJCSpG2WKHfd01WLMuBG2WM9dl01",
      "WNEsJG2WO1bt01WP6qRG2WPvZ_01WQ-oZG2WRprn01WSsmhG2WThpv01WUUbDG2WVZo101WWMZLG2WXRm901",
      "WYGr7G2WZJkH01Wa8pFG2WbBiP01Wc5OhG2Wd5-B01Wd_gTG2WezzBG1WftebG2WgrxJG1WhlcjG2WijvRG1",
      "WjdarG2WkbtZG1WlVYzG2WmTrhG1WnPqlG2WoLppG1WpHotG2WqG5bG1Wr7TLG2WsCh1G1Ws_RTG2Wu6ypG1",
      "WuvjFG2Wv-wxG1WwnhNG2Wxsv3G1Wyhz9G2WzktBG1W-ZxHG2W_crJG1X0PblG2X5H3LG1X5yupG2X791TG1",
      "X7tAbG2X90_bG1X9ir3G2XAuzjG1XBd6rG2XCpFVG1XDXOdG2XElqxG1XFT-3G2XGbVPG1"],
    some ⟨-18000, -14400, ⟨3, 2, 0, 0⟩, ⟨11, 1, 0, 3600⟩⟩⟩,
  ⟨"America/Hermosillo", -26632, [-25200, -21600],
    [
      "UbjkXm0UlyIjm1UsPbPW0UtGJrm1Uu33PW0Uu_ORm1VBwd5W0WnPuGG1WoSnQ00WpHsOG1WqKlY00Wr9qWG1",
      "WsCjg00"],
    none⟩,
  ⟨"America/Indiana/Indianapolis", -20678, [-21600, -18000, -14400],
    [
      "TU0_wW0UUfYo01UVklbm0UWXWw01UXcjjm0VALoA01VAs4Tm0VBYFw01VIOGdm0VJTVC01VKGElm0VLLTK01",
      "VM8Ctm0VNDRS01VO0A_m0VP5Pa01VPu97m0VQ_hM01VRm7Fm0VStfU01VTgP1m0VUldc01VVYN9m0VWdbk01",
      "VXQLHm0VYVZs01VZIJPm0VaNX-01VeyXRm0Vg1m001V-k1pm2V_f__W1W0b_xm2W1X-7W1X4BtPm2X5H4DW1",
      "X5ywZm2"],
    some ⟨-18000, -14400, ⟨3, 2, 0, 7200⟩, ⟨11, 1, 0, 7200⟩⟩⟩,
  ⟨"America/Indiana/Knox", -20790, [-21600, -18000],
    [
      "TU0_wW0UUfYo01UVklbm0UWXWw01UXcjjm0VBYFw01VIOGdm0VLLTK01VM8Ctm0VNDRS01VO0A_m0VP5Pa01",
      "VPu97m0VQ_hM01VRm7Fm0VStfU01VTgP1m0VUldc01VVYN9m0VWdbk01VXQLHm0VYVZs01VZIJPm0VaNX-01",
      "VbLppm0VcHpm01VdDnxm0Ve9nu01VeyXRm0Vg1m001VgqVZm0Vhvk801ViriJm0VjniG01Vkl-5m0Vlh-201",
      "VmdyDm0VnZyA01VqNuTm0Vw-6S01Vxw4dm0Vys4a01Vzo2lm0V-k2i01V_g0tm0W0c0q01W1X-_m0W2T-y01",
      "W3SGnm0W4OGk01W5KEvm0W6GEs01W7CD1m0W7ZIU01W94B9m0W9hQC01WAy9Hm0WBu9E01WCsR3m0WDm7M01",
      "WEkPBm0WFgP801WGcNJm0WHYNG01WIULRm0WJQLO01WKMJZm0WLIJW01WMEHhm0WNAHe01WO8ZTm0WP2Fm01",
      "WQ0Xbm0WQyXY01WRuVjm0WSqVg01WTmTrm0WUiTo01WVeRzm0WWTWy01WXWQ5m0WYLV401WZQhtm0WaDTC01",
      "WbIf_m0Wc5RK01WdAe7m0Wd_j601X5H55m0X5yxS01"],
    some ⟨-21600, -18000, ⟨3, 2, 0, 7200⟩, ⟨11, 1, 0, 7200⟩⟩⟩,
  ⟨"America/Indiana/Marengo", -20723, [-21600, -18000, -14400],
    [
      "TU0_wW0UUfYo01UVklbm0UWXWw01UXcjjm0VBYFw01VIOGdm0VStfU01VTgP1m0VYVZs01VZIJPm0VaNX-01",
      "VbAHXm0VcHpm01Vd4ZJm0Ve9nu01VeyXRm0Vg1m001VgqVZm0Vhvk801ViiThm0VjniG01VkaRpm0Vlh-201",
      "V-k1pm2V_f__W1W0b_xm2W1X-7W1W2T-3m2W3SFvW1W4OFrm2W5KE1W1W6GDzm2W7CC9W1W9hPJm2WAy8PW1",
      "X4BtPm2X5H4DW1X5ywZm2"],
    some ⟨-18000, -14400, ⟨3, 2, 0, 7200⟩, ⟨11, 1, 0, 7200⟩⟩⟩,
  ⟨"America/Indiana/Petersburg", -20947, [-21600, -18000, -14400],
    [
      "TU0_wW0UUfYo01UVklbm0UWXWw01UXcjjm0VBYFw01VIOGdm0VaPptW1VbAHXm0VcHpm01Vd4ZJm0Ve9nu01",
      "VeyXRm0Vg1m001VgqVZm0Vhvk801ViiThm0VjniG01VkaRpm0Vlh-201VmdyDm0VnZyA01VoVwLm0VpRwI01",
      "VqNuTm0VrJuQ01VsFsbm0VtBsY01Vw26Vm0Vw-6S01Vxw4dm0Vys4a01Vzo2lm0V-k2i01V_g0tm0W0c0q01",
      "W1X-_m0W2T-y01W3SGnm0W4OGk01W5KEvm0W6GEs01W7CD1m0W7ZIU01W94B9m0W9hQC01WAy9Hm0WBu9E01",
      "WCsR3m0WDm7M01X5H55m0X5yxS01X7quhm2"],
    some ⟨-18000, -14400, ⟨3, 2, 0, 7200⟩, ⟨11, 1, 0, 7200⟩⟩⟩,
  ⟨"America/Indiana/Tell_City", -20823, [-21600, -18000, -14400],
    [
      "TU0_wW0UUfYo01UVklbm0UWXWw01UXcjjm0VBYFw01VIOGdm0VaPptW1VbAHXm0VcHpm01Vd4ZJm0Ve9nu01",
      "VeyXRm0Vg1m001VgqVZm0Vhvk801ViiThm0VjniG01VkaRpm0Vlh-201VmdyDm0VnZyA01VoVwLm0VpRwI01",
      "VqNuTm0VrJuQ01Vxw4dm0Vys4a01Vzo2lm0V-k2i02V_f__W1W0b_xm2W1X-7W1X5H55m0X5yxS01"],
    some ⟨-21600, -18000, ⟨3, 2, 0, 7200⟩, ⟨11, 1, 0, 7200⟩⟩⟩,
  ⟨"America/Indiana/Vevay", -20416, [-21600, -18000, -14400],
    [
      "TU0_wW0UUfYo01UVklbm0UWXWw01UXcjjm0VBYFw01VIOGdm0VYVZs01V-k1pm2V_f__W1W0b_xm2W1X-7W1",
      "W2T-3m2W3SFvW1W4OFrm2W5KE1W1X4BtPm2X5H4DW1X5ywZm2"],
    some ⟨-18000, -14400, ⟨3, 2, 0, 7200⟩, ⟨11, 1, 0, 7200⟩⟩⟩,
  ⟨"America/Indiana/Vincennes", -21007, [-21600, -18000, -14400],
    [
      "TU0_wW0UUfYo01UVklbm0UWXWw01UXcjjm0VBYFw01VIOGdm0VJTVC01VKGElm0VWdbk01VXQLHm0VYVZs01",
      "VZIJPm0VaPptW1VbAHXm0VcHpm01Vd4ZJm0Ve9nu01VeyXRm0Vg1m001VgqVZm0Vhvk801ViiThm0VjniG01",
      "Vkl-5m0Vlh-201VmSPxm0VnZyA01VoVwLm0VpRwI01VqNuTm0VrJuQ01V-k1pm2V_f__W1W0b_xm2W1X-7W1",
      "X5H55m0X5yxS01X7quhm2"],
    some ⟨-18000, -14400, ⟨3, 2, 0, 7200⟩, ⟨11, 1, 0, 7200⟩⟩⟩,
  ⟨"America/Indiana/Winamac", -20785, [-21600, -18000, -14400],
    [
      "TU0_wW0UUfYo01UVklbm0UWXWw01UXcjjm0VBYFw01VIOGdm0VJTVC01VKGElm0VLLTK01VM8Ctm0VNDRS01",
      "VO0A_m0VP5Pa01VPu97m0VQ_hM01VRm7Fm0VStfU01VTgP1m0VUldc01VVYN9m0VWdbk01VXQLHm0VYVZs01",
      "VZIJPm0VaNX-01VbLppm0VcHpm01VdDnxm0Ve9nu01VeyXRm0Vg1m001VgqVZm0Vhvk801ViiThm0VjniG01",
      "VkaRpm0Vlh-201V-k1pm2V_f__W1W0b_xm2W1X-7W1X5H55m0X5yxS02X7BL_W1"],
    some ⟨-18000, -14400, ⟨3, 2, 0, 7200⟩, ⟨11, 1, 0, 7200⟩⟩⟩,
  ⟨"America/Inuvik", 0, [-28800, -25200, -21600],
    [
      "VW1aw00W4OIUW1W5KGgG0W6GGcW1W7CEoG0W88EkW1W94CwG0WA0CsW1WAyB2G0WBuA-W1WCsSqG0WDm96W1",
      "WEkQyG0WFgQuW1WGcP4G0WHYP0W2WIUMK01WJQMGG2WKMKS01WLIKOG2WMEIa01WNAIWG2WO8aM01WP2GeG2",
      "WQ0YU01WQyYQG2WRuWc01WSqWYG2WTmUk01WUiUgG2WVeSs01WWTXqG2WXWQ-01WYLVyG2WZQim01WaDU4G2",
      "WbIgu01Wc5SCG2WdAf001Wd_j-G2Wf2d801Wfti6G2WgwbG01WhlgEG2Wiqt201WjdeMG2WkirA01WlVcUG2",
      "WmapI01WnPuGG2WoSnQ01WpHsOG2WqKlY01Wr9qWG2WsCjg01Wt1oeG2Wu6_S01WuvmmG2Wv-za01WwnkuG2",
      "Wxsxi01Wyi0gG2Wzkvq01W-Z-oG2W_cty01X0RywG2X1X9k01X2Jx2G2X3P7s01X4BvAG2X5H5-01X5yyKG2"],
    some ⟨-25200, -21600, ⟨3, 2, 0, 7200⟩, ⟨11, 1, 0, 7200⟩⟩⟩,
  ⟨"America/Iqaluit", 0, [-14400, -18000, -21600],
    [
      "VCRA600VIOFlW1W4OFrm0W5KE1W1W6GDzm0W7CC9W1W88C5m0W94AHW1WA0ADm0WAy8PW1WBu8Lm0WCsQBW1",
      "WDm6Tm0WEkOJW1WFgOFm0WGcMRW1WHYMNm0WIUKZW1WJQKVm0WKMIhW1WLIIdm0WMEGpW1WNAGlm0WO8YbW1",
      "WP2Etm0WQ0WjW1WQyWfm0WRuUrW1WSqUnm0WTmSzW1WUiSvm0WVeR5W1WWTW3m0WXWPDW1WYLUBm0WZQg_W1",
      "WaDSJm0WbIf7W1Wc5QRm0WdAdFW1Wd_iDm0Wf2bNW1WftgLm0WgwZVW1WhleTm0WiqrHW1Wjdcbm0WkipPW1",
      "WlVajm0WmanXW1WnPsVm0WoSlfW1WpHqdm0WqKjnW1Wr9olm0WsChvW1Wt1mtm0Wu6zhW2Wuvlu01Wwnj7m0",
      "WxsvxW1Wyh-vm0Wzku3W1W-Zz1m0W_csBW1X0Rx9m0X1X7zW1X2JvHm0X3P65W1X4BtPm0X5H4DW1X5ywZm0"],
    some ⟨-18000, -14400, ⟨3, 2, 0, 7200⟩, ⟨11, 1, 0, 7200⟩⟩⟩,
  ⟨"America/Jamaica", -18430, [-18000, -14400],
    [
      "UJ3xJ-0W7ZHbm1W94AHW0W9hPJm1WAy8PW0WBu8Lm1WCsQBW0WDm6Tm1WEkOJW0WFgOFm1WGcMRW0WHYMNm1",
      "WIUKZW0WJQKVm1WKMIhW0WLIIdm1WMEGpW0WNAGlm1WO8YbW0WP2Etm1WQ0WjW0"],
    none⟩,
  ⟨"America/Juneau", 54139, [-32261, -28800, -25200, -32400],
    [
      "S_mltH0TzXpB51VBYHgW2VIOIOG1V-k4SW2V_g2eG1W0c2aW2W1Y0mG1W2U0iW2W3SIYG1W4OIUW2W5KGgG1",
      "W6GGcW2W7CEoG1W7ZKEW2W94CwG1W9hRyW2WAyB2G1WBuA-W2WCsSqG1WDm96W2WEkQyG1WFgQuW2WGcP4G1",
      "WHYP0W2WIUNCG1WLILGW2WMEJSG1WNAJOW2WO8bEG1WP2HWW2WQ0ZMG3WQyaAm1WRuYMW3WSqYIm1WTmWUW3",
      "WUiWQm1WVeUcW3WWTZam1WXWSkW3WYLXim1WZQkWW3WaDVqm1WbIieW3Wc5Tym1WdAgmW3Wd_lkm1Wf2euW3",
      "Wftjsm1Wgwd0W3Whlh-m1WiquoW3Wjdg6m1WkiswW3WlVeEm1Wmar2W3WnPw0m1WoSpAW3WpHu8m1WqKnIW3",
      "Wr9sGm1WsClQW3Wt1qOm1Wu71CW3WuvoWm1Wv-_KW3Wwnmem1WxszSW3Wyi2Qm1WzkxaW3W-a0Ym1W_cviW3",
      "X0R-gm1X1XBUW3X2Jyom1X3P9cW3X4Bwwm1X5H7kW3X5y-4m1"],
    some ⟨-32400, -28800, ⟨3, 2, 0, 7200⟩, ⟨11, 1, 0, 7200⟩⟩⟩,
  ⟨"America/Kentucky/Louisville", -20582, [-21600, -18000, -14400],
    [
      "TU0_wW0UUfYo01UVklbm0UWXWw01UXcjjm0UaS_S01Ub5X5m0VA3Kw01VAs4Tm0VBYFw01VIOGdm0VJTTSS1",
      "VJf0bm0VQ_hM01VRm7Fm0VStfU01VTgP1m0VUldc01VVYN9m0VWdbk01VXQLHm0VYVZs01VZIJPm0VaNX-01",
      "VbAHXm0VcHpm01VdDnxm0Ve9nu01Vf5m3m0Vg1m001VgzkBm0Vhvk801ViriJm0VjniG01Vkl-5m0Vlh-201",
      "Vys3hm2Vzo1tW1V-k1pm2V_f__W1W0b_xm2W1X-7W1W2T-3m2W3SFvW1W4OFrm2W5KE1W1W6GDzm2W7CC9W1",
      "W9hPJm2WAy8PW1WBu8Lm2WCsQBW1WDm6Tm2WEkOJW1WFgOFm2WGcMRW1WHYMNm2WIUKZW1WJQKVm2WKMIhW1",
      "WLIIdm2WMEGpW1WNAGlm2WO8YbW1WP2Etm2WQ0WjW1WQyWfm2WRuUrW1WSqUnm2WTmSzW1WUiSvm2WVeR5W1",
      "WWTW3m2WXWPDW1WYLUBm2WZQg_W1WaDSJm2WbIf7W1Wc5QRm2WdAdFW1Wd_iDm2Wf2bNW1WftgLm2WgwZVW1",
      "WhleTm2WiqrHW1Wjdcbm2WkipPW1WlVajm2WmanXW1WnPsVm2WoSlfW1WpHqdm2WqKjnW1Wr9olm2WsChvW1",
      "Wt1mtm2Wu6zhW1Wuvk_m2Wv-xpW1Wwnj7m2WxsvxW1Wyh-vm2Wzku3W1W-Zz1m2W_csBW1X0Rx9m2X1X7zW1",
      "X2JvHm2X3P65W1X4BtPm2X5H4DW1X5ywZm2"],
    some ⟨-18000, -14400, ⟨3, 2, 0, 7200⟩, ⟨11, 1, 0, 7200⟩⟩⟩,
  ⟨"America/Kentucky/Monticello", -20364, [-21600, -18000, -14400],
    [
      "TU0_wW0UUfYo01UVklbm0UWXWw01UXcjjm0VBYFw01VIOGdm0Vys4a01Vzo2lm0V-k2i01V_g0tm0W0c0q01",
      "W1X-_m0W2T-y01W3SGnm0W4OGk01W5KEvm0W6GEs01W7CD1m0W7ZIU01W94B9m0W9hQC01WAy9Hm0WBu9E01",
      "WCsR3m0WDm7M01WEkPBm0WFgP801WGcNJm0WHYNG01WIULRm0WJQLO01WKMJZm0WLIJW01WMEHhm0WNAHe01",
      "WO8ZTm0WP2Fm01WQ0Xbm0WQyXY01WRuVjm0WSqVg01WTmTrm0WUiTo01WVeRzm0WWTWy01WXWQ5m0WYLV401",
      "WZQhtm0WaDTC01WbIf_m0Wc5RK01WdAe7m0Wd_j601Wf2cFm0WfthE01WgwaNm0WhlfM01Wiqs9m0WjddU01",
      "WkiqHm0WlVbc01WmaoPm0WnPtO01WoSmXm0WpHrW01WqKkfm0Wr9pe01WsCinm0Wt1nm01Wu6-Zm0Wuvlu01",
      "Wwnj7m2WxsvxW1Wyh-vm2Wzku3W1W-Zz1m2W_csBW1X0Rx9m2X1X7zW1X2JvHm2X3P65W1X4BtPm2X5H4DW1",
      "X5ywZm2"],
    some ⟨-18000, -14400, ⟨3, 2, 0, 7200⟩, ⟨11, 1, 0, 7200⟩⟩⟩,
  ⟨"America/La_Paz", -16356, [-12756, -14400],
    ["Uu7fRa0UuxjNK1"],
    none⟩,
  ⟨"America/Lima", -18492, [-18516, -18000, -14400],
    [
      "TfXoEy0UCT43K1V3pqfG2V4HUD01V5BqhG2V67ot01V73opG2V7_m_01WU6CHG2WUZrr01WV-VVG2WWS9301",
      "WbdkFG2Wc5Np01Wj9GDG2Wjcvn01"],
    none⟩,
  ⟨"America/Los_Angeles", -28378, [-28800, -25200],
    [
      "TU11h00UUfaYW1UVknMG0UWXYgW1UXclUG0VBYHgW1VIOIOG0VM_dHS1VOWAsG0VQ_iEG1VRm90G0VStgMG1",
      "VTgQoG0VUleUG1VVYOwG0VWdccG1VXQN2G0VYVakG1VZILAG0VaNYsG1VbAJIG0VcHqeG1Vd4b4G0Ve9omG1",
      "VeyZCG0Vg1muG1VgqXKG0Vhvl0G1ViiVSG0Vjnj8G1VkaTaG0Vlh-wG1VmSRiG0VnZz2G1VoVy6G0VpRxAG1",
      "VqNwEG0VrJvIG1VsFuMG0VtBtQG1VuAA8G0Vv3rYG1Vw28GG0Vw-8CW1Vxw6OG0Vys6KW1Vzo4WG0V-k4SW1",
      "V_g2eG0W0c2aW1W1Y0mG0W2U0iW1W3SIYG0W4OIUW1W5KGgG0W6GGcW1W7CEoG0W7ZKEW1W94CwG0W9hRyW1",
      "WAyB2G0WBuA-W1WCsSqG0WDm96W1WEkQyG0WFgQuW1WGcP4G0WHYP0W1WIUNCG0WJQN8W1WKMLKG0WLILGW1",
      "WMEJSG0WNAJOW1WO8bEG0WP2HWW1WQ0ZMG0WQyZIW1WRuXUG0WSqXQW1WTmVcG0WUiVYW1WVeTkG0WWTYiW1",
      "WXWRsG0WYLWqW1WZQjeG0WaDUyW1WbIhmG0Wc5T4W1WdAfuG0Wd_ksW1Wf2e0G0Wfti-W1Wgwc8G0Whlh6W1",
      "WiqtwG0WjdfEW1Wkis2G0WlVdMW1WmaqAG0WnPv8W1WoSoIG0WpHtGW1WqKmQG0Wr9rOW1WsCkYG0Wt1pWW1",
      "Wu70KG0WuvneW1Wv--SG0WwnlmW1WxsyaG0Wyi1YW1WzkwiG0W-Z_gW1W_cuqG0X0RzoW1X1XAcG0X2JxwW1",
      "X3P8kG0X4Bw2W1X5H6sG0X5yzCW1"],
    some ⟨-28800, -25200, ⟨3, 2, 0, 7200⟩, ⟨11, 1, 0, 7200⟩⟩⟩,
  ⟨"America/Maceio", -8572, [-10800, -7200],
    [
      "UMgcXy0Uu3qdW1Uu_K2W0UvyJGm1UwtdGW0VQEAum1VQw_em0VS6U6m1VSkLaW0VT-nKm1VUczuW0VVtPem1",
      "VWL3CW0Vqb_-m1Vr1LuW0Vsm6Gm1Vt3XwW0VuKImm1VunyKW0Vw2jAm1VwgFYW0Vxx0Om1VyYtsW0WToOum1",
      "WUUDUW0WVe3Mm1WWCy-W0WXWMam1WY2yYW0WZM12m1WZud0W0WbD_Am1WbrCSW0WmW7am1Wn7KsW0WtziQm1",
      "Wuk8KW0Wvt-Cm1WvyaeW0WxoF-m1WyRmwW0"],
    none⟩,
  ⟨"America/Managua", -20708, [-20712, -21600, -18000],
    [
      "TfXona0UzBKZe1W6GtHW2W9f3vG1WHKVZW2WHr6zG1WJCThW2WJj55G1WfOP4W2WgmKjG1WhGztW2WooUzG1",
      "X2MC3W2X3FsbG1X4L6w02X57rbW1"],
    none⟩,
  ⟨"America/Manaus", -14404, [-14400, -10800],
    [
      "UMgdz40Uu3rVm1Uu_Kwm0UvyK901Uwte8m0VQEBn01VQx0X00VS6U_01VSkMSm0VT-oD01VUc-mm0VVtQX01",
      "VWL44m0Vqc0t01Vr1Mmm0Vsm7901Vt3Yom0VuKJf01VunzCm0Vw2k301VwgGQm0Vxx1H01VyYukm0WToPn01",
      "WUUEMm0WVe4F01WWCzsm0WXWNT01WY2zQm0WimCD01WjPj8m0"],
    none⟩,
  ⟨"America/Martinique", -14660, [-14400, -10800],
    ["UHeyX40WJJMv01WKD1Qm0"],
    none⟩,
  ⟨"America/Matamoros", -23400, [-21600, -18000],
    [
      "UbjjfW0WYLV401WZQhtm0WnPtO01WoSmXm0WpHrW01WqKkfm0Wr9pe01WsCinm0Wt1nm01Wu6-Zm0Wuvlu01",
      "Wv-yhm0WwzGI01WxjiBm0Wyh_o01Wzkuxm0W-Zzw01W_ct3m0X0Ry201X1X8rm0X2JwA01X3P6zm0X4BuI01",
      "X5H55m0X63sQ01X793Dm0X7-8C01X911Lm0X9s6K01XAu_Tm0XBd9U01"],
    some ⟨-21600, -18000, ⟨3, 2, 0, 7200⟩, ⟨11, 1, 0, 7200⟩⟩⟩,
  ⟨"America/Mazatlan", -25540, [-25200, -21600],
    [
      "UbjkXm0UlyIjm1UsPbPW0UtGJrm1Uu33PW0Uu_ORm1VBwd5W0WnPuGG1WoSnQ00WpHsOG1WqKlY00Wr9qWG1",
      "WsCjg00Wt1oeG1Wu6_S00WuvmmG1Wv-za00WwzHAG1Wxjj400Wyi0gG1Wzkvq00W-Z-oG1W_cty00X0RywG1",
      "X1X9k00X2Jx2G1X3P7s00X4BvAG1X5H5-00X63tIG1X794600X7-94G1X912E00X9s7CG1XAv0M00XBk5KG1",
      "XCpI800XDc3SG1XEhGG00XFU1aG1XGZEO00XHOJMG1XIRCW00XJGHUG1XKJAe00XL8FcG1XMB8m00XN0DkG1",
      "XO5QY00XOuBsG1XPzOg00XQm9-G1XRrMo00XSgRmG1XTjKw00XUYPuG1XVbJ200XWQO0G1XXVaq00XYIM8G1",
      "XZNYy00"],
    none⟩,
  ⟨"America/Menominee", -21027, [-21600, -18000],
    [
      "TXTqbZ0UUfYo01UVklbm0UWXWw01UXcjjm0VBYFw01VIOGdm0VJTVC01VKGElm0Vv3qg01Vw26Vm0V-k2i01",
      "W7CD1m0W7ZIU01W94B9m0W9hQC01WAy9Hm0WBu9E01WCsR3m0WDm7M01WEkPBm0WFgP801WGcNJm0WHYNG01",
      "WIULRm0WJQLO01WKMJZm0WLIJW01WMEHhm0WNAHe01WO8ZTm0WP2Fm01WQ0Xbm0WQyXY01WRuVjm0WSqVg01",
      "WTmTrm0WUiTo01WVeRzm0WWTWy01WXWQ5m0WYLV401WZQhtm0WaDTC01WbIf_m0Wc5RK01WdAe7m0Wd_j601",
      "Wf2cFm0WfthE01WgwaNm0WhlfM01Wiqs9m0WjddU01WkiqHm0WlVbc01WmaoPm0WnPtO01WoSmXm0WpHrW01",
      "WqKkfm0Wr9pe01WsCinm0Wt1nm01Wu6-Zm0Wuvlu01Wv-yhm0Wwnk001Wxswpm0Wyh_o01Wzkuxm0W-Zzw01",
      "W_ct3m0X0Ry201X1X8rm0X2JwA01X3P6zm0X4BuI01X5H55m0X5yxS01"],
    some ⟨-21600, -18000, ⟨3, 2, 0, 7200⟩, ⟨11, 1, 0, 7200⟩⟩⟩,
  ⟨"America/Merida", -21508, [-21600, -18000],
    [
      "UbjjfW0WMYkO01WO9Dfm0WnPtO01WoSmXm0WpHrW01WqKkfm0Wr9pe01WsCinm0Wt1nm01Wu6-Zm0Wuvlu01",
      "Wv-yhm0WwzGI01WxjiBm0Wyh_o01Wzkuxm0W-Zzw01W_ct3m0X0Ry201X1X8rm0X2JwA01X3P6zm0X4BuI01",
      "X5H55m0X63sQ01X793Dm0X7-8C01X911Lm0X9s6K01XAu_Tm0XBk4S01XCpHFm0XDc2a01XEhFNm0XFU0i01",
      "XGZDVm0XHOIU01XIRBdm0XJGGc01XKJ9lm0XL8Ek01XMB7tm0XN0Cs01XO5Pfm0XOuA-01XPzNnm0XQm9601",
      "XRrLvm0XSgQu01XTjK1m0XUYP001XVbI9m0XWQN801XXVZxm0XYILG01XZNY3m0"],
    none⟩,
  ⟨"America/Metlakatla", 54822, [-31578, -28800, -25200, -32400],
    [
      "S_mltH0TzXp0Q1VBYHgW2VIOIOG1V-k4SW2V_g2eG1W0c2aW2W1Y0mG1W2U0iW2W3SIYG1W4OIUW2W5KGgG1",
      "W6GGcW2W7CEoG1W7ZKEW2W94CwG1W9hRyW2WAyB2G1WBuA-W2WCsSqG1WDm96W2WEkQyG1WFgQuW2WGcP4G1",
      "WHYP0W2WIUNCG1WJQN8W2WKMLKG1WLILGW2WMEJSG1WNAJOW2WO8bEG1WP2HWW2WQ0ZMG1XMDUAW3XMvKWm1",
      "XO7lyW3XOnIem1XP_k4W3XQfGmm1XSH4QW3XSXEum1"],
    some ⟨-32400, -28800, ⟨3, 2, 0, 7200⟩, ⟨11, 1, 0, 7200⟩⟩⟩,
  ⟨"America/Mexico_City", -23796, [-25200, -21600, -18000],
    [
      "UbjkXm0UlyIjm1UsPbPW0UtGJrm1Uu33PW0Uu_ORm1V5th1W2V6bpHG1V9LV7W2V9wjrG1VF0iRW2VFjrPG1",
      "VQcHNW2VRTeFG1WnPtO02WoSmXm1WpHrW02WqKkfm1Wr9pe02WsCinm1Wt1nm02Wu6-Zm1Wuvlu02Wv-yhm1",
      "WwzGI02WxjiBm1Wyh_o02Wzkuxm1W-Zzw02W_ct3m1X0Ry202X1X8rm1X2JwA02X3P6zm1X4BuI02X5H55m1",
      "X63sQ02X793Dm1X7-8C02X911Lm1X9s6K02XAu_Tm1XBk4S02XCpHFm1XDc2a02XEhFNm1XFU0i02XGZDVm1",
      "XHOIU02XIRBdm1XJGGc02XKJ9lm1XL8Ek02XMB7tm1XN0Cs02XO5Pfm1XOuA-02XPzNnm1XQm9602XRrLvm1",
      "XSgQu02XTjK1m1XUYP002XVbI9m1XWQN802XXVZxm1XYILG02XZNY3m1"],
    none⟩,
  ⟨"America/Miquelon", -13480, [-14400, -10800, -7200],
    [
      "UHtnSe0WJRcF01WWTUJG2WXWNT01WYLSRG2WZQfF01WaDQZG2WbIdN01Wc5OhG2WdAbV01Wd_gTG2Wf2Zd01",
      "WftebG2WgwXl01WhlcjG2WiqpX01WjdarG2Wkinf01WlVYzG2Wmaln01WnPqlG2WoSjv01WpHotG2WqKi101",
      "Wr9m_G2WsCg901Wt1l7G2Wu6xx01WuvjFG2Wv-w301WwnhNG2WxsuB01Wyhz9G2WzksJ01W-ZxHG2W_cqR01",
      "X0RvPG2X1X6D01X2JtXG2X3P4L01X4BrfG2X5H2T01X5yupG2"],
    some ⟨-10800, -7200, ⟨3, 2, 0, 7200⟩, ⟨11, 1, 0, 7200⟩⟩⟩,
  ⟨"America/Moncton", -15548, [-18000, -14400, -10800],
    [
      "TU7ksy0U0yRPG1UUk8LW2UVkjrG1UxF3ZG2Uxj2D01Uz71hG2Uzb0L01U--_pG2U_S-T01V0szxG2V1Kyb01",
      "V2ky3G2V3Cwj01V4cwBG2V54ur01V6SFZG2V73Sr01V8IF7G2V8xQz01VA5bxG2VAril01VBYE9W2VIOEtG1",
      "VJTTRW2VKGC_G1VLLRZW2VM8B7G1VNDPhW2VO09FG1VP5NpW2VPu7NG1VQ_fbW2VRm5VG1VStdjW2VTgNHG1",
      "VUlbrW2VVYLPG1VWdZzW2VXQJXG1VYVY5W2VZIHfG1VaNWDW2VbAFnG1VcHn_W2Vd4XZG1Ve9m7W2Vf5kJG1",
      "Vg1kFW2VgziRG1VhviNW2VirgZG1VjngVW2VklyLG1VlhyHW2VmdwTG1VnZwPW2VoVubG1VpRuXW2VqNsjG1",
      "VrJsfW2VsFqrG1VtBqnW2VuA6dG1Vv3ovW2Vw24lG1Vw-4hW2Vxw2tG1Vys2pW2Vzo0_G1V-k0xW2V_f_7G1",
      "W0b_3W2W1XzFG1W2TzBW2W3SF1G1W4OEzW2W5KD9G1W88BDW2W949PG1WA09LW2WAy7XG1WBu7TW2WCsPJG1",
      "WDm5bW2WEkNRG1WFgNNW2WGcLZG1WHYLVW2WIUJhG1WJQJdW2WKMHpG1WLIHlW2WMEFxG1WNAFtW2WO8XjG1",
      "WP2D_W2WQ0VrG1WQyVnW2WRuTzG1WSqTvW2WTmS5G1WUiS1W2WVeQDG1WWTVBW2WXWOLG1WYLTJW2WZQg7G1",
      "WaDRRW2WbIeFG1Wc5PZW2WdAcNG1Wd_hLW2Wf2aVG1WftfTW2WgwYdG1Whlbry2Wiqofi1WjdZzy2Wkimni1",
      "WlVY5y2Wmakvi1WnPpty2WoSj1i1WpHn_y2WqKh9i1Wr9m7y2WsCfHi1Wt1kFy2Wu6x3i1WuviNy2Wv-vBi1",
      "WwngVy2WxstJi1WyhyHy2WzkrRi1W-ZwPy2W_cpZi1X0RuXy2X1X5Li1X2Jsfy2X3P3Ti1X4Bqny2X5H1bi1",
      "X5yvhW2"],
    some ⟨-14400, -10800, ⟨3, 2, 0, 7200⟩, ⟨11, 1, 0, 7200⟩⟩⟩,
  ⟨"America/Monterrey", -24076, [-25200, -21600, -18000],
    [
      "UbjjfW0UlyIjm1UsPbPW0UtGJrm1Uu33PW0Uu_ORm1WYLV402WZQhtm1WnPtO02WoSmXm1WpHrW02WqKkfm1",
      "Wr9pe02WsCinm1Wt1nm02Wu6-Zm1Wuvlu02Wv-yhm1WwzGI02WxjiBm1Wyh_o02Wzkuxm1W-Zzw02W_ct3m1",
      "X0Ry202X1X8rm1X2JwA02X3P6zm1X4BuI02X5H55m1X63sQ02X793Dm1X7-8C02X911Lm1X9s6K02XAu_Tm1",
      "XBk4S02XCpHFm1XDc2a02XEhFNm1XFU0i02XGZDVm1XHOIU02XIRBdm1XJGGc02XKJ9lm1XL8Ek02XMB7tm1",
      "XN0Cs02XO5Pfm1XOuA-02XPzNnm1XQm9602XRrLvm1XSgQu02XTjK1m1XUYP002XVbI9m1XWQN802XXVZxm1",
      "XYILG02XZNY3m1"],
    none⟩,
  ⟨"America/Montevideo", -13491, [-14400, -10800, -12600, -9000, -7200, -5400],
    [
      "UYaeUp0Ue_zj01UfyG-m2Ugubau1UhqaCm2Uimuou1UjitQm2UxzBMu1UylxMm2Uzr9Uu1U-dvUm2U_j7cu1",
      "V0Vtcm2V1b5ku1V2Nrkm2V3VNWu1V4Fpsm2V5NLeu1V67n-m2V7658u1V823mm2V97Huu1V9w1um2VAYvyu1",
      "VD7iOm3VDbMOe1Vi2uMm3ViyZKe1VjHKgm4VjXTOW1Vt4tAm4Vt-XiW1Vy_Zum3VzzX4e1W0bdKm4W0s58W1",
      "W4Lugm4W4nZgW1W7bXkm5W7tzgO3W8nfye1W9Maum4W9stCW1WD6X8m4WDVuUW1WEvtym4WFNscW1WGsTOm4",
      "WHFqkW1WHYIsm4WJCQAW1WXmrGm4WY9tWW1WZeUIm4Wa49IW1WbIcUm4WbvpmW1Wd8Gym4Wdq5YW1Wf2Ykm4",
      "Wfi3gW1WguDCm4Wha1oW1X1JFOm4X2HY_01X3IAFG4X44vp01X57qjG4X5ytx01X726VG4X7qs301X8w4dG4",
      "X9iqB01XAo2lG4XBd5z01XCg0tG4XDV4501XEX-_G4XFN2D01XGSGnG4XHF0L01XIKEvG4XJ6-T01XKCD1G4",
      "XK-yb01"],
    none⟩,
  ⟨"America/New_York", -17762, [-18000, -14400],
    [
      "TU0_2G0UUfXvm1UVkkjW0UWXW1m1UXcirW0UYPU9m1UZW-dW0UaQgvm1UbDQTW0UcKyhm1Ud5ObW0UeCwpm1",
      "Ue_gNW0Ug4uxm1UgteVW0Uhyt3m1UilcdW0UjqrBm1UkdalW0UlipJm1UmVYtW0Und55m1UoPqfW0UpV3Dm1",
      "UqHonW0UrN1Lm1Us9mvW0UtE_Tm1Uu1l1W0Uv6zbm1Uvvj9W0Ux1FNm1UxnhHW0UyvDVm1Uzhz3W0U-nBdm1",
      "U_ZxBW0V0f9lm1V1RvJW0V2X7tm1V3JtRW0V4P5_m1V5BrZW0V6JNnm1V73phW0V8BLvm1V8-5TW0VA3K1m1",
      "VAs3bW0VBYF1m1VIOFlW0VJTUJm1VKGDtW0VLLSRm1VM8B_W0VNDQZm1VO0A7W0VP5Ohm1VPu8FW0VQ_gTm1",
      "VRm6NW0VStebm1VTgO9W0VUlcjm1VVYMHW0VWdarm1VXQKPW0VYVYzm1VZIIXW0VaNX5m1VbLoxW0VcHotm1",
      "VdDn3W0Ve9m_m1Vf5lBW0Vg1l7m1VgzjJW0VhvjFm1VirhRW0VjnhNm1VklzDW0Vlhz9m1VmdxLW0VnZxHm1",
      "VoVvTW0VpRvPm1VqNtbW0VrJtXm1VsFrjW0VtBrfm1VuA7VW0Vv3pnm1Vw25dW0Vw-5Zm1Vxw3lW0Vys3hm1",
      "Vzo1tW0V-k1pm1V_f__W0W0b_xm1W1X-7W0W2T-3m1W3SFvW0W4OFrm1W5KE1W0W6GDzm1W7CC9W0W7ZHbm1",
      "W94AHW0W9hPJm1WAy8PW0WBu8Lm1WCsQBW0WDm6Tm1WEkOJW0WFgOFm1WGcMRW0WHYMNm1WIUKZW0WJQKVm1",
      "WKMIhW0WLIIdm1WMEGpW0WNAGlm1WO8YbW0WP2Etm1WQ0WjW0WQyWfm1WRuUrW0WSqUnm1WTmSzW0WUiSvm1",
      "WVeR5W0WWTW3m1WXWPDW0WYLUBm1WZQg_W0WaDSJm1WbIf7W0Wc5QRm1WdAdFW0Wd_iDm1Wf2bNW0WftgLm1",
      "WgwZVW0WhleTm1WiqrHW0Wjdcbm1WkipPW0WlVajm1WmanXW0WnPsVm1WoSlfW0WpHqdm1WqKjnW0Wr9olm1",
      "WsChvW0Wt1mtm1Wu6zhW0Wuvk_m1Wv-xpW0Wwnj7m1WxsvxW0Wyh-vm1Wzku3W0W-Zz1m1W_csBW0X0Rx9m1",
      "X1X7zW0X2JvHm1X3P65W0X4BtPm1X5H4DW0X5ywZm1"],
    some ⟨-18000, -14400, ⟨3, 2, 0, 7200⟩, ⟨11, 1, 0, 7200⟩⟩⟩,
  ⟨"America/Nome", 46702, [-39698, -39600, -36000, -32400, -28800],
    [
      "S_mltH0TzXq_I1VBYKJG2VIOL101V-k75G2V_g5H01W0c5DG2W1Y3P01W2U3LG2W3SLB01W4OL7G2W5KJJ01",
      "W6GJFG2W7CHR01W7ZMtG2W94FZ01W9hUbG2WAyDh01WBuDdG2WCsVT01WDmBlG2WEkTb01WFgTXG2WGcRj01",
      "WHYRfG2WIUPr01WJQPnG2WKMNz01WLINvG2WMEM501WNAM1G2WO8dt01WP2K9G2WQ0b_03WQyaAm4WRuYMW3",
      "WSqYIm4WTmWUW3WUiWQm4WVeUcW3WWTZam4WXWSkW3WYLXim4WZQkWW3WaDVqm4WbIieW3Wc5Tym4WdAgmW3",
      "Wd_lkm4Wf2euW3Wftjsm4Wgwd0W3Whlh-m4WiquoW3Wjdg6m4WkiswW3WlVeEm4Wmar2W3WnPw0m4WoSpAW3",
      "WpHu8m4WqKnIW3Wr9sGm4WsClQW3Wt1qOm4Wu71CW3WuvoWm4Wv-_KW3Wwnmem4WxszSW3Wyi2Qm4WzkxaW3",
      "W-a0Ym4W_cviW3X0R-gm4X1XBUW3X2Jyom4X3P9cW3X4Bwwm4X5H7kW3X5y-4m4"],
    some ⟨-32400, -28800, ⟨3, 2, 0, 7200⟩, ⟨11, 1, 0, 7200⟩⟩⟩,
  ⟨"America/Noronha", -7780, [-7200, -3600],
    [
      "UMgcLa0Uu3plG1Uu_JAG0UvyIOW1UwtcOG0VQEA0W1VQw-mW0VS6TEW1VSkKiG0VT-mSW1VUcz0G0VVtOmW1",
      "VWL2KG0Vqb_6W1Vr1L0G0Vsm5OW1Vt3X2G0VuKHuW1VunxSG0Vw2iIW1VwgEgG0Vxw_WW1VyYs-G0WToO0W1",
      "WUUCcG0WVe2UW1WWCy6G0WXWLiW1WY2xgG0WZM0AW1WZuc8G0WbD-IW1WbrBaG0WtzhYW1Wuk7SG0WvtzKW1",
      "WvwG6G0WxoF6W1WyRm2G0"],
    none⟩,
  ⟨"America/North_Dakota/Beulah", -24427, [-25200, -21600, -18000],
    [
      "TU10om0UUfZgG1UVkmU00UWXXoG1UXckc00VBYGoG1VIOHW00Vw-7KG1Vxw5W00Vys5SG1Vzo3e00V-k3aG1",
      "V_g1m00W0c1iG1W1X_u00W2T_qG1W3SHg00W4OHcG1W5KFo00W6GFkG1W7CDw00W7ZJMG1W94C200W9hR4G1",
      "WAyAA00WBuA6G1WCsRy00WDm8EG1WEkQ400WFgQ0G1WGcOC00WHYO8G1WIUMK00WJQMGG1WKMKS00WLIKOG1",
      "WMEIa00WNAIWG1WO8aM00WP2GeG1WQ0YU00WQyYQG1WRuWc00WSqWYG1WTmUk00WUiUgG1WVeSs00WWTXqG1",
      "WXWQ-00WYLVyG1WZQim00WaDU4G1WbIgu00Wc5SCG1WdAf000Wd_j-G1Wf2d800Wfti6G1WgwbG00WhlgEG1",
      "Wiqt200WjdeMG1WkirA00WlVcUG1WmapI00WnPuGG1WoSnQ00WpHsOG1WqKlY00Wr9qWG1WsCjg00Wt1oeG1",
      "Wu6_S00WuvmmG1Wv-za00WwnkuG1Wxsxi00Wyi0gG1Wzkvq00W-Z-oG1W_cty00X0RywG1X1X9k00X2Jx2G1",
      "X3P7s00X4BvAG1X5H5-00X5yyKG1X7BNm00X7qwSG1X93Lu00X9iuaG1XAxK000XBdAMG1XDV7c02"],
    some ⟨-21600, -18000, ⟨3, 2, 0, 7200⟩, ⟨11, 1, 0, 7200⟩⟩⟩,
  ⟨"America/North_Dakota/Center", -24312, [-25200, -21600, -18000],
    [
      "TU10om0UUfZgG1UVkmU00UWXXoG1UXckc00VBYGoG1VIOHW00Vw-7KG1Vxw5W00Vys5SG1Vzo3e00V-k3aG1",
      "V_g1m00W0c1iG1W1X_u00W2T_qG1W3SHg00W4OHcG1W5KFo00W6GFkG1W7CDw00W7ZJMG1W94C200W9hR4G1",
      "WAyAA00WBuA6G1WCsRy00WDm8EG1WEkQ400WFgQ0G1WGcOC00WHYO8G1WIUMK00WJQMGG1WKMKS00WLIKOG1",
      "WMEIa00WNAIWG1WO8aM00WP2GeG1WQ0YU00WQyYQG1WRuWc00WSqWYG1WTmUk00WUiUgG1WVeSs00WWTXqG1",
      "WXWQ-00WYLVyG1WZQim00WaDU4G1WbIgu00Wc5SCG1WdAf000Wd_j-G1Wf2d800Wfti6G1WhlfM02Wiqs9m1",
      "WjddU02WkiqHm1WlVbc02WmaoPm1WnPtO02WoSmXm1WpHrW02WqKkfm1Wr9pe02WsCinm1Wt1nm02Wu6-Zm1",
      "Wuvlu02Wv-yhm1Wwnk002Wxswpm1Wyh_o02Wzkuxm1W-Zzw02W_ct3m1X0Ry202X1X8rm1X2JwA02X3P6zm1",
      "X4BuI02X5H55m1X5yxS02"],
    some ⟨-21600, -18000, ⟨3, 2, 0, 7200⟩, ⟨11, 1, 0, 7200⟩⟩⟩,
  ⟨"America/North_Dakota/New_Salem", -24339, [-25200, -21600, -18000],
    [
      "TU10om0UUfZgG1UVkmU00UWXXoG1UXckc00VBYGoG1VIOHW00Vw-7KG1Vxw5W00Vys5SG1Vzo3e00V-k3aG1",
      "V_g1m00W0c1iG1W1X_u00W2T_qG1W3SHg00W4OHcG1W5KFo00W6GFkG1W7CDw00W7ZJMG1W94C200W9hR4G1",
      "WAyAA00WBuA6G1WCsRy00WDm8EG1WEkQ400WFgQ0G1WGcOC00WHYO8G1WIUMK00WJQMGG1WKMKS00WLIKOG1",
      "WMEIa00WNAIWG1WO8aM00WP2GeG1WQ0YU00WQyYQG1WRuWc00WSqWYG1WTmUk00WUiUgG1WVeSs00WWTXqG1",
      "WXWQ-00WYLVyG1WZQim00WaDU4G1WbIgu00Wc5SCG1WdAf000Wd_j-G1Wf2d800Wfti6G1WgwbG00WhlgEG1",
      "Wiqt200WjdeMG1WkirA00WlVcUG1WmapI00WnPuGG1WoSnQ00WpHsOG1WqKlY00Wr9qWG1WsCjg00Wt1oeG1",
      "Wu6_S00WuvmmG1Wv-za00WwnkuG1Wxsxi00Wyi0gG1Wzkvq00W-Z-oG1X0Ry202X1X8rm1X2JwA02X3P6zm1",
      "X4BuI02X5H55m1X5yxS02"],
    some ⟨-21600, -18000, ⟨3, 2, 0, 7200⟩, ⟨11, 1, 0, 7200⟩⟩⟩,
  ⟨"America/Nuuk", -12416, [-10800, -7200, -3600],
    [
      "URW6W00WJJNnG1WKC_gG0WL8-kG1WM4zoG0WN0ysG1WNyxwG0WOuw-G1WPqw2G0WQmv6G1WRlBqG0WShAuG1",
      "WTd9yG0WUZ90G1WVV84G0WWR78G1WXN6CG0WYJ5GG1WZF4KG0WaB3OG1Wb72SG0Wc31WG1Wd1KEG0WdzJIG1",
      "WevIMG0WfrHQG1WgnGUG0WhjFYG1WifEcG0WjbDgG1WkXCkG0WlTBoG1WmPAsG0WnNTaG1WoShGG0WpFRiG1",
      "WqKfOG0Wr7PqG1WsCdWG0Ws_NyG1Wu6vIG0WutM4G1Wv-tQG0WwlKCG1WxsrYG0Wyfb-G1WzkpgG0W-Xa6G1",
      "W_cnoG0X0PYEG1X1X3aG0X2HWMG1X3P1iG0X49UUG1X5G_qG0X61ScG1X78zyG0X7xkOG1X90y4G0X9piWG1",
      "XAuwCG0XBhgeG1XCpB-G0XDZemG1XEhA6G0XFRcuG1XGZ8EG0XHLugG1XIR6MG0XJDsoG1XKJ4UG0XL5qwG1",
      "XMB2cG0XMzp2G1XO5KOG0XOrnAG1XPzIWG0XQjlIG1XRrGeG0XSe14G1XTjEmG0XUV_CG1XVbCuG0XWNzKG1",
      "XXVUgG0XYFxSG1XZNSoG0Xa7vaG1Xc2BMG2"],
    some ⟨-7200, -3600, ⟨3, 5, 0, -3600⟩, ⟨10, 5, 0, 0⟩⟩⟩,
  ⟨"America/Ojinaga", -25060, [-25200, -21600, -18000],
    [
      "UbjkXm0UlyIjm1UsPbPW0UtGJrm1Uu33PW0Uu_ORm1WnPtO02WoSmXm1WpHrW02WqKkfm1WsCjg00Wt1oeG1",
      "Wu6_S00WuvmmG1Wv-za00WwzHAG1Wxjj400Wyi0gG1Wzkvq00W-Z-oG1W_cty00X0RywG1X1X9k00X2Jx2G1",
      "X3P7s00X4BvAG1X5H5-00X63tIG1X794600X7-94G1X912E00X9s7CG1XAv0M00XBdAMG1XCrbo00XDV8UG1",
      "XEjZw00XFN6cG1XGbY200XHF4kG1XITWA00XJ72sG1XKLUI00XK_0-G1XMDSQ00XMvImG1XO7kC00XOnGuG1",
      "XP_iK00XQfF0G1XRtgS00XSXD8G1XTlea00XUPBGG1XVdci00XWJT2G1XXXuU00XYBRAG1Xa3OQ02"],
    some ⟨-21600, -18000, ⟨3, 2, 0, 7200⟩, ⟨11, 1, 0, 7200⟩⟩⟩,
  ⟨"America/Panama", -19088, [-19176, -18000],
    ["TfXoOG0UBz67e1"],
    none⟩,
  ⟨"America/Paramaribo", -13240, [-13252, -13236, -12600, -10800],
    ["UH1Owu0U-Aal41VIOYoq2WRlZ6u3"],
    none⟩,
  ⟨"America/Phoenix", -26898, [-25200, -21600],
    ["TU10om0UUfZgG1UVkmU00UWXXoG1UXckc00VBYGoG1VF5zyS0VFZ-Mi1VGWHeS0Vw-7KG1Vxw5W00"],
    none⟩,
  ⟨"America/Port-au-Prince", -17360, [-17340, -18000, -14400],
    [
      "TfXnzG0USRd7y1WP6qRG2WQ0Uz01WQyUvG2WRuT501WSqT1G2WTmRD01WUiR9G2WVePL01WWaPHG2WXWNT01",
      "WYLTJW2WZQg_W1WaDRRW2WbIf7W1Wc5PZW2WdAdFW1Wd_hLW2Wf2bNW1WftfTW2WgwZVW1WhldbW2WiqrHW1",
      "WjdbjW2WkipPW1WlVZrW2WmanXW1WnPrdW2WoSlfW1WpHplW2WqKjnW1X2JtXG2X3P4L01X4BrfG2X5H2T01",
      "XFN4rm2XGbWHW1XHF2zm2XITUPW1XJ715m2XKLSXW1XK-_Dm2XMDQfW1XOnF7m2"],
    some ⟨-18000, -14400, ⟨3, 2, 0, 7200⟩, ⟨11, 1, 0, 7200⟩⟩⟩,
  ⟨"America/Porto_Velho", -15336, [-14400, -10800],
    [
      "UMgeBe0Uu3rVm1Uu_Kwm0UvyK901Uwte8m0VQEBn01VQx0X00VS6U_01VSkMSm0VT-oD01VUc-mm0VVtQX01",
      "VWL44m0Vqc0t01Vr1Mmm0Vsm7901Vt3Yom0VuKJf01VunzCm0Vw2k301VwgGQm0Vxx1H01VyYukm0WToPn01",
      "WUUEMm0WVe4F01WWCzsm0WXWNT01WY2zQm0"],
    none⟩,
  ⟨"America/Puerto_Rico", -15865, [-14400, -10800],
    ["TwvfMv0VBzZB01VIOEtG0"],
    none⟩,
  ⟨"America/Punta_Arenas", -17020, [-16965, -18000, -14400, -10800],
    [
      "TfXnty0UFC4T51URNELG0UVVEB52UX07700UmNdV52UnTpr01UoGG3G2UpM7301Uq8ZHG2UrEQH01Us0sVG2",
      "Ut6jV01Utv9jG2Uu_Lp01Uvno1G2VC76v01VCREVG2VLCrN01VLTf902VzqJn03V-algm2V_pCt03W0Sjom2",
      "W1TL303W2G4cm2W3LJB03W482km2W5Faz03W600sm2W72xn03W7t--m2W8_XD03W9lz6m2WAtVL03WBgEum2",
      "WClTT03WDYD0m2WEdRb03WFQB8m2WGXjN03WHI9Gm2WIPhV03WJA7Om2WKHfd03WL4PAm2WM9dl03WMyNIm2",
      "WO1bt03WOqLQm2WPvZ_03WQiJYm2WRprn03WSaHgm2WThpv03WUSFom2WVZo103WWVmCm2WXRm903WYEVim2",
      "WZJkH03Wa6Tqm2WbE0303Wb-Rym2WcylZ03WdsQ4m2WezyJ03Wfmhsm2WgrwR03Whef-m2WijuZ03WjWe6m2",
      "Wkbsh03WlOcEm2WmW8T03WnGaMm2WoO6b03WpFTSm2WqG4j03Wr2qGm2Ws3RX03Wt1jMm2Wu00z03WuomWm2",
      "WvwIl03Wwgkem2WxoGt03WyYimm2WzgE_03W-Qgum2W_YD703X0Kygm2X1QBF03X2Cwom2X3I9N03X44uwm2",
      "X5CR903X5yt2m2X74PH03X7xm8m2X8yNP03X9l6ym2XAqLX03XBk02m2XCiJf03XDnWSm2XEK8B03XFdAwm2",
      "XGGjd03XHV92m2XIA_P03XJN7Am2XK2zX03XND-Om2XNh-p03"],
    none⟩,
  ⟨"America/Rankin_Inlet", 0, [-21600, -18000],
    [
      "VdZ6u00W4OGk01W5KEvm0W6GEs01W7CD1m0W88C-01W94B9m0WA0B601WAy9Hm0WBu9E01WCsR3m0WDm7M01",
      "WEkPBm0WFgP801WGcNJm0WHYNG01WIULRm0WJQLO01WKMJZm0WLIJW01WMEHhm0WNAHe01WO8ZTm0WP2Fm01",
      "WQ0Xbm0WQyXY01WRuVjm0WSqVg01WTmTrm0WUiTo01WVeRzm0WWTWy01WXWQ5m0WYLV401WZQhtm0WaDTC01",
      "WbIf_m0Wc5RK01WdAe7m0Wd_j601Wf2cFm0WfthE01WgwaNm0WhlfM01Wiqs9m0WjddU01WkiqHm0WlVbc01",
      "WmaoPm0WnPtO01WoSmXm0WpHrW01WqKkfm0Wr9pe01WsCinm0Wt1nm01Wu6-Zm0Wuvlu01Wxswpm0Wyh_o01",
      "Wzkuxm0W-Zzw01W_ct3m0X0Ry201X1X8rm0X2JwA01X3P6zm0X4BuI01X5H55m0X5yxS01"],
    some ⟨-21600, -18000, ⟨3, 2, 0, 7200⟩, ⟨11, 1, 0, 7200⟩⟩⟩,
  ⟨"America/Recife", -8376, [-10800, -7200],
    [
      "UMgcUu0Uu3qdW1Uu_K2W0UvyJGm1UwtdGW0VQEAum1VQw_em0VS6U6m1VSkLaW0VT-nKm1VUczuW0VVtPem1",
      "VWL3CW0Vqb_-m1Vr1LuW0Vsm6Gm1Vt3XwW0VuKImm1VunyKW0Vw2jAm1VwgFYW0Vxx0Om1VyYtsW0WToOum1",
      "WUUDUW0WVe3Mm1WWCy-W0WXWMam1WY2yYW0WZM12m1WZud0W0WbD_Am1WbrCSW0WtziQm1Wuk8KW0Wvt-Cm1",
      "WvwG-W0WxoF-m1WyRmwW0"],
    none⟩,
  ⟨"America/Regina", -25116, [-25200, -21600],
    [
      "U6_PCS0UUkA-G1UVkmU00UrPK_m1UsC4ZW0UtHJ7m1Uu42hW0Uv9HFm1Uvy0pW0Ux3Z1m1Uxp-xW0UyxX9m1",
      "UzkGjW0V2SWZm1V3OUlW0V4KUhm1V5E9DW0V6CSpm1V78Q_W0V86kbm1V92inW0V9-ijm1VAwgvW0VBYGoG1",
      "VIOHW00VJOumG1VKKsy00VLLUCG1VM8Dm00VNDSKG1VO0Bu00VP5QSG1VPuA000VQ_iEG1VRm8800VStgMG1",
      "VTgPw00VUleUG1VVYO200VWdccG1VXQMA00VYVakG1VZIKI00VaNYsG1VbAIQ00VcHqeG1Vd4aC00Ve9omG1",
      "VeyYK00Vhvl0G1VirjC00Vjnj8G1"],
    none⟩,
  ⟨"America/Resolute", 0, [-21600, -18000],
    [
      "VL-u600W4OGk01W5KEvm0W6GEs01W7CD1m0W88C-01W94B9m0WA0B601WAy9Hm0WBu9E01WCsR3m0WDm7M01",
      "WEkPBm0WFgP801WGcNJm0WHYNG01WIULRm0WJQLO01WKMJZm0WLIJW01WMEHhm0WNAHe01WO8ZTm0WP2Fm01",
      "WQ0Xbm0WQyXY01WRuVjm0WSqVg01WTmTrm0WUiTo01WVeRzm0WWTWy01WXWQ5m0WYLV401WZQhtm0WaDTC01",
      "WbIf_m0Wc5RK01WdAe7m0Wd_j601Wf2cFm0WfthE01WgwaNm0WhlfM01Wiqs9m0WjddU01WkiqHm0WlVbc01",
      "WmaoPm0WnPtO01WoSmXm0WpHrW01WqKkfm0Wr9pe01WsCinm0Wt1nm01Wu6-Zm0Wuvlu01Wxswpm0Wyh_o01",
      "Wzkuxm0W-Zzw01W_ct3m0X0Ry201X1X8rm0X2JwA01X3P6zm0X4BuI01X7BMtm0"],
    some ⟨-21600, -18000, ⟨3, 2, 0, 7200⟩, ⟨11, 1, 0, 7200⟩⟩⟩,
  ⟨"America/Rio_Branco", -16272, [-18000, -14400],
    [
      "UMgeQG0Uu3sO01Uu_Lp00UvyL1G1Uwtf100VQECfG1VQx1PG0VS6VtG1VSkNL00VT-p5G1VUc_f00VVtRPG1",
      "VWL4z00Vqc1lG1Vr1Nf00Vsm81G1Vt3Zh00VuKKXG1Vun-500Vw2kxG1VwgHJ00Vxx29G1VyYvd00WToQfG1",
      "WUUFF00WVe57G1WWC-l00WXWOLG1WY2-J00X8O7zG1XIVmJ00"],
    none⟩,
  ⟨"America/Santarem", -13128, [-14400, -10800],
    [
      "UMgdf80Uu3rVm1Uu_Kwm0UvyK901Uwte8m0VQEBn01VQx0X00VS6U_01VSkMSm0VT-oD01VUc-mm0VVtQX01",
      "VWL44m0Vqc0t01Vr1Mmm0Vsm7901Vt3Yom0VuKJf01VunzCm0Vw2k301VwgGQm0Vxx1H01VyYukm0WToPn01",
      "WUUEMm0WVe4F01WWCzsm0WXWNT01WY2zQm0X8O7501"],
    none⟩,
  ⟨"America/Santiago", -16965, [-18000, -16965, -14400, -10800],
    [
      "UFC4T50URNELG1UVVEB52UX07701UmNdV52UnTpr00UoGG3G2UpM7300Uq8ZHG2UrEQH00Us0sVG2Ut6jV00",
      "Utv9jG2Uu_Lp00Uvno1G2VC76v00VCREVG2VJt8_03VK5zKm2VLCrN00VLTf902VzqJn03V-algm2V_pCt03",
      "W0Sjom2W1TL303W2G4cm2W3LJB03W482km2W5Faz03W600sm2W72xn03W7t--m2W8_XD03W9lz6m2WAtVL03",
      "WBgEum2WClTT03WDYD0m2WEdRb03WFQB8m2WGXjN03WHI9Gm2WIPhV03WJA7Om2WKHfd03WL4PAm2WM9dl03",
      "WMyNIm2WO1bt03WOqLQm2WPvZ_03WQiJYm2WRprn03WSaHgm2WThpv03WUSFom2WVZo103WWVmCm2WXRm903",
      "WYEVim2WZJkH03Wa6Tqm2WbE0303Wb-Rym2WcylZ03WdsQ4m2WezyJ03Wfmhsm2WgrwR03Whef-m2WijuZ03",
      "WjWe6m2Wkbsh03WlOcEm2WmW8T03WnGaMm2WoO6b03WpFTSm2WqG4j03Wr2qGm2Ws3RX03Wt1jMm2Wu00z03",
      "WuomWm2WvwIl03Wwgkem2WxoGt03WyYimm2WzgE_03W-Qgum2W_YD703X0Kygm2X1QBF03X2Cwom2X3I9N03",
      "X44uwm2X5CR903X5yt2m2X74PH03X7xm8m2X8yNP03X9l6ym2XAqLX03XBk02m2XCiJf03XDnWSm2XEK8B03",
      "XFdAwm2XGGjd03XHV92m2XIA_P03XJN7Am2XK2zX03XND-Om2XNh-p03XP5yWm2XPZyx03XQzwem2XRRx303",
      "XSgMUm2XTT7p03XUYKcm2XVL5x03XWQIkm2XXD4303XYIGsm2XZ7Lr03XaAE-m2"],
    some ⟨-14400, -10800, ⟨9, 1, 6, 86400⟩, ⟨4, 1, 6, 86400⟩⟩⟩,
  ⟨"America/Santo_Domingo", -16776, [-16800, -18000, -14400, -16200],
    [
      "TfXnq80Uwtq9W1Vw24lG2VwfyD01V_f_7G3W0Gtl81W1XzFG3W1-dz81W3SF1G3W3tGH81W5KD9G3W5lub81",
      "W7CBHG3W7eBp81W949PG2Wv-xpW1WwAU5W2"],
    none⟩,
  ⟨"America/Sao_Paulo", -11188, [-10800, -7200],
    [
      "UMgdAq0Uu3qdW1Uu_K2W0UvyJGm1UwtdGW0VQEAum1VQw_em0VS6U6m1VSkLaW0VT-nKm1VUczuW0VVtPem1",
      "VWL3CW0VqMWam1Vr1LuW0Vsm6Gm1Vt3XwW0VuKImm1VunyKW0Vw2jAm1VwgFYW0Vxx0Om1VyYtsW0WToOum1",
      "WUUDUW0WVe3Mm1WWCy-W0WXWMam1WY2yYW0WZM12m1WZud0W0WbD_Am1WbrCSW0Wd8Gym1WdlUEW0Wf0F4m1",
      "Wfb8iW0WgwWsm1WhQpAW0WimBKm1WjPiGW0Wke9Sm1WlHgOW0WmW7am1Wn7KsW0WoLo2m1Wp1ceW0WqE5Gm1",
      "Wq-C4W0Ws81ym1WspsYW0WtziQm1Wuk8KW0Wvt-Cm1WwZooW0WxoF-m1WyRmwW0Wzn94m1W-Jl2W0W_aVum1",
      "X0BjAW0X1XlWm1X25-yW0X3KS8m1X3zz4W0X5JLEm1X5uEsW0X74OOm1X7jvKW0X8-gAm1X9btSW0XAseIm1",
      "XBW9EW0XCkcQm1XDO7MW0XEcaYm1XFIP8W0XGWsKm1XH83cW0XIOqSm1XJ01kW0XKGoam1XKwJWW0XM8mim1",
      "XMoHeW0XO0kqm1XOgFmW0XPuiym1XQYDuW0XRtc2m1XSQC0W0"],
    none⟩,
  ⟨"America/Scoresbysund", -5272, [-7200, -3600, 0],
    [
      "URW4mO0WJJMv01WKD2J00WL8_cW2WM4zoG1WN0ysG2WNyxwG1WOuw-G2WPqw2G1WQmv6G2WRlBqG1WShAuG2",
      "WTd9yG1WUZ90G2WVV84G1WWR78G2WXN6CG1WYJ5GG2WZF4KG1WaB3OG2Wb72SG1Wc31WG2Wd1KEG1WdzJIG2",
      "WevIMG1WfrHQG2WgnGUG1WhjFYG2WifEcG1WjbDgG2WkXCkG1WlTBoG2WmPAsG1WnNTaG2WoShGG1WpFRiG2",
      "WqKfOG1Wr7PqG2WsCdWG1Ws_NyG2Wu6vIG1WutM4G2Wv-tQG1WwlKCG2WxsrYG1Wyfb-G2WzkpgG1W-Xa6G2",
      "W_cnoG1X0PYEG2X1X3aG1X2HWMG2X3P1iG1X49UUG2X5G_qG1X61ScG2X78zyG1X7xkOG2X90y4G1X9piWG2",
      "XAuwCG1XBhgeG2XCpB-G1XDZemG2XEhA6G1XFRcuG2XGZ8EG1XHLugG2XIR6MG1XJDsoG2XKJ4UG1XL5qwG2",
      "XMB2cG1XMzp2G2XO5KOG1XOrnAG2XPzIWG1XQjlIG2XRrGeG1XSe14G2XTjEmG1XUV_CG2XVbCuG1XWNzKG2",
      "XXVUgG1XYFxSG2XZNSoG1Xa7vaG2XbFQwG1Xd7P2G0"],
    some ⟨-7200, -3600, ⟨3, 5, 0, -3600⟩, ⟨10, 5, 0, 0⟩⟩⟩,
  ⟨"America/Sitka", 53927, [-32473, -28800, -25200, -32400],
    [
      "S_mltH0TzXpEP1VBYHgW2VIOIOG1V-k4SW2V_g2eG1W0c2aW2W1Y0mG1W2U0iW2W3SIYG1W4OIUW2W5KGgG1",
      "W6GGcW2W7CEoG1W7ZKEW2W94CwG1W9hRyW2WAyB2G1WBuA-W2WCsSqG1WDm96W2WEkQyG1WFgQuW2WGcP4G1",
      "WHYP0W2WIUNCG1WJQN8W2WKMLKG1WLILGW2WMEJSG1WNAJOW2WO8bEG1WP2HWW2WQ0ZMG3WQyaAm1WRuYMW3",
      "WSqYIm1WTmWUW3WUiWQm1WVeUcW3WWTZam1WXWSkW3WYLXim1WZQkWW3WaDVqm1WbIieW3Wc5Tym1WdAgmW3",
      "Wd_lkm1Wf2euW3Wftjsm1Wgwd0W3Whlh-m1WiquoW3Wjdg6m1WkiswW3WlVeEm1Wmar2W3WnPw0m1WoSpAW3",
      "WpHu8m1WqKnIW3Wr9sGm1WsClQW3Wt1qOm1Wu71CW3WuvoWm1Wv-_KW3Wwnmem1WxszSW3Wyi2Qm1WzkxaW3",
      "W-a0Ym1W_cviW3X0R-gm1X1XBUW3X2Jyom1X3P9cW3X4Bwwm1X5H7kW3X5y-4m1"],
    some ⟨-32400, -28800, ⟨3, 2, 0, 7200⟩, ⟨11, 1, 0, 7200⟩⟩⟩,
  ⟨"America/St_Johns", -12652, [-9052, -12652, -12600, -9000, -5400],
    [
      "USps8C0UTfERy1UUk7wC0UVkjPy1UWjeZS0UXEFzC1UYbHbS0UZXFnC1UaTFjS0UbPDvC1UcNXVS0UdHC1C1",
      "UeFVdS0Uf9A9C1Ug7TlS0Uh18HC1Uh_RtS0Uiv6PC1UjtP_S0UkpOBC1UllO7S0UmhMJC1UnffvS0UoZKRC1",
      "UpXe1S0UqRIZC1UrPc9S0UsJGhC1UtHaHS0UuBEpC1Uv9YPS0Uw5WbC1Ux3qBS0UxzUjC1UyxoJS0UzrSrC1",
      "U-dari2U-pmQe3U_jQyO2V0k34u3V1UU-e2V2c1Cu3V3MT6e2V4T_Ku3V5EREe2V6OH6u3V76PMe2V8GFEu3",
      "V90h8e2VA8DMu3VAufGe2VC0BUu3VIOER82VJY4JO3VKIWD82VLQ2RO3VMAUL82VNI0ZO3VO2ST82VP9-hO3",
      "VPwQb82VR4GTO3VRqiN82VStdHO3VTgMr82VUlbPO3VVYKz82VWdZXO3VXQJ582VYVXfO3VZIHD82VaNVnO3",
      "VbAFL82VcHnZO3Vd4X782Ve9lhO3VeyVF82Vg1jpO3VgqTN82VhvhxO3ViiRV82Vjng3O3Vklxv82VlhxrO3",
      "Vmdw182VnZvzO3VoVu982VpRu5O3VqNsH82VrJsDO3VsFqP82VtBqLO3VuA6B82Vv3oTO3Vw24J82Vw-4FO3",
      "Vxw2R82Vys2NO3Vzo0Z82V-k0VO3V_f-h82W0b-dO3W1Xyp82W2TylO3W3SEb82W4OEXO3W5KCj82W6GCfO3",
      "W7CAr82W88AnO3W948z82WA08vO3WAy7582WBu71O3WCsOt82WDm59O3WEkM_82WFgMxO3WGcL782WHYL3O3",
      "WIUJF82WJQJBO3WKMHN82WLIHJO3WMEFV82WNAFRO3WO8XH82WP2DZO3WQ0VP82WQyVLO3WRuTX82WSqTTO3",
      "WTmRf82WUiRbO3WVePn82WWTS_q3WXWM9a2WYLR7q4WZQd3K2WaDPFq3WbIc3a2Wc5NNq3WdAaBa2Wd_f9q3",
      "Wf2YJa2WftdHq3WgwWRa2WhlbPq3WiqoDa2WjdZXq3WkimLa2WlVXfq3WmakTa2WnPpRq3WoSiba2WpHnZq3",
      "WqKgja2Wr9lhq3WsCera2Wt1jpq3Wu6wda2Wuvhxq3Wv-ula2Wwng3q3Wxssta2Wyhxrq3Wzkq_a2W-Zvzq3",
      "W_cp7a2X0Ru5q3X1X4va2X2JsDq3X3P31a2X4BqLq3X5H19a2X5ytVq3X7BIxa2X7qrdq3X93H3a2X9iplq3",
      "XAxFBa2XBd5Xq3XCrWza2XDV3fq3XEjWr82"],
    some ⟨-12600, -9000, ⟨3, 2, 0, 7200⟩, ⟨11, 1, 0, 7200⟩⟩⟩,
  ⟨"America/Swift_Current", -25880, [-25200, -21600],
    [
      "U6_POO0UUkA-G1UVkmU00VBYGoG1VIOHW00VJTW4G1VKKsy00VLLUCG1VM8Dm00VNDSKG1VO0Bu00VP5QSG1",
      "VPuA000Ve9omG1Vf5my00Vhvl0G1VirjC00Vjnj8G1VkaSi00Vlh-wG1VmSQq00W4OHcG1"],
    none⟩,
  ⟨"America/Tegucigalpa", -20932, [-21600, -18000],
    ["UaJ4j40WWcjpW1WXN9jG0WYUhxW1WZF7rG0X4NOpW1X4riZG0"],
    none⟩,
  ⟨"America/Thule", -16508, [-14400, -10800],
    [
      "URW7Vy0WdzNhW1WevLtG0WfrLpW1WgnJ_G0WhldbW1WiqqPG0WjdbjW1WkioXG0WlVZrW1WmamfG0WnPrdW1",
      "WoSknG0WpHplW1WqKivG0Wr9ntW1WsCh1G0Wt1l_W1Wu6ypG0Wuvk7W1Wv-wxG0WwniFW1Wxsv3G0Wyh-1W1",
      "WzktBG0W-Zy9W1W_crJG0X0RwHW1X1X75G0X2JuPW1X3P5DG0X4BsXW1X5H3LG0X5yvhW1"],
    some ⟨-14400, -10800, ⟨3, 2, 0, 7200⟩, ⟨11, 1, 0, 7200⟩⟩⟩,
  ⟨"America/Tijuana", -28084, [-25200, -28800],
    [
      "UbjkXm0UfUKzm1UlyJc00UsPcHm1Ut6n000Uu2lBm1VBwes00VIdQxm1VN6ra00VOaRJm1VR00S00VRm7Fm1",
      "VSthEW0VTgQoG1VUlfMW0VVYOwG1VWdccG0VXQN2G1VYVakG0VZILAG1VaNYsG0VbAJIG1VcHqeG0Vd4b4G1",
      "Ve9omG0VeyZCG1Vg1muG0VgqXKG1Vhvl0G0ViiVSG1Vjnj8G0VkaTaG1Vlh-wG0VmSRiG1VnZz2G0VoVy6G1",
      "VpRxAG0VqNwEG1VrJvIG0VsFuMG1VtBtQG0VuAA8G1Vv3rYG0Vw28GG1Vw-8CW0Vxw6OG1Vys6KW0Vzo4WG1",
      "V-k4SW0V_g2eG1W0c2aW0W1Y0mG1W2U0iW0W3SIYG1W4OIUW0W5KGgG1W6GGcW0W7CEoG1W7ZKEW0W94CwG1",
      "W9hRyW0WAyB2G1WBuA-W0WCsSqG1WDm96W0WEkQyG1WFgQuW0WGcP4G1WHYP0W0WIUNCG1WJQN8W0WKMLKG1",
      "WLILGW0WMEJSG1WNAJOW0WO8bEG1WP2HWW0WQ0ZMG1WQyZIW0WRuXUG1WSqXQW0WTmVcG1WUiVYW0WVeTkG1",
      "WWTYiW0WXWRsG1WYLWqW0WZQjeG1WaDUyW0WbIhmG1Wc5T4W0WdAfuG1Wd_ksW0Wf2e0G1Wfti-W0Wgwc8G1",
      "Whlh6W0WiqtwG1WjdfEW0Wkis2G1WlVdMW0WmaqAG1WnPv8W0WoSoIG1WpHtGW0WqKmQG1Wr9rOW0WsCkYG1",
      "Wt1pWW0Wu70KG1WuvneW0Wv--SG1WwnlmW0WxsyaG1Wyi1YW0WzkwiG1W-Z_gW0W_cuqG1X0RzoW0X1XAcG1",
      "X2JxwW0X3P8kG1X4Bw2W0X5H6sG1X63uAW0X794-G1X7-9yW0X9136G1X9s84W0XAv1EG1XBdBEW0"],
    some ⟨-28800, -25200, ⟨3, 2, 0, 7200⟩, ⟨11, 1, 0, 7200⟩⟩⟩,
  ⟨"America/Toronto", -19052, [-18000, -14400],
    [
      "ToxdZi0UUk9Dm1UVkkjW0UWXox81UXch500UYb0Rm1UZLQb00UaXbtm1UbA7XW0UcPZ_m1Ud34xW0UeHY7m1",
      "Uex33W0Ug7Cbm1UgrKrW0Uh_Ajm1UijIzW0Ujt8rm1UkbH5W0Ull6zm1UmVYtW0Und55m1UoPqfW0UpV3Dm1",
      "UqHonW0UrN1Lm1Us9mvW0UtE_Tm1Uu1l1W0Uv9HFm1Uvvj9W0Ux1FNm1Uxp-xW0UyvDVm1Uzhz3W0U-nBdm1",
      "U_ZxBW0V0f9lm1V1RvJW0V2X7tm1V3JtRW0V4P5_m1V5BrZW0V6JNnm1V73phW0V8BLvm1VIOFlW0VJTUJm1",
      "VKGDtW0VLLSRm1VM8B_W0VNDQZm1VO0A7W0VP5Ohm1VQCv9W0VQ_gTm1VS4tHW0VStebm1VTgO9W0VUlcjm1",
      "VVYMHW0VWdarm1VXQKPW0VYVYzm1VZIIXW0VaNX5m1VbAGfW0VcHotm1Vd4YRW0Ve9m_m1Vf5lBW0Vg1l7m1",
      "VgzjJW0VhvjFm1VirhRW0VjnhNm1VklzDW0Vlhz9m1VmdxLW0VnZxHm1VoVvTW0VpRvPm1VqNtbW0VrJtXm1",
      "VsFrjW0VtBrfm1VuA7VW0Vv3pnm1Vw25dW0Vw-5Zm1Vxw3lW0Vys3hm1Vzo1tW0V-k1pm1V_f__W0W0b_xm1",
      "W1X-7W0W2T-3m1W3SFvW0W4OFrm1W5KE1W0W6GDzm1W7CC9W0W88C5m1W94AHW0WA0ADm1WAy8PW0WBu8Lm1",
      "WCsQBW0WDm6Tm1WEkOJW0WFgOFm1WGcMRW0WHYMNm1WIUKZW0WJQKVm1WKMIhW0WLIIdm1WMEGpW0WNAGlm1",
      "WO8YbW0WP2Etm1WQ0WjW0WQyWfm1WRuUrW0WSqUnm1WTmSzW0WUiSvm1WVeR5W0WWTW3m1WXWPDW0WYLUBm1",
      "WZQg_W0WaDSJm1WbIf7W0Wc5QRm1WdAdFW0Wd_iDm1Wf2bNW0WftgLm1WgwZVW0WhleTm1WiqrHW0Wjdcbm1",
      "WkipPW0WlVajm1WmanXW0WnPsVm1WoSlfW0WpHqdm1WqKjnW0Wr9olm1WsChvW0Wt1mtm1Wu6zhW0Wuvk_m1",
      "Wv-xpW0Wwnj7m1WxsvxW0Wyh-vm1Wzku3W0W-Zz1m1W_csBW0X0Rx9m1X1X7zW0X2JvHm1X3P65W0X4BtPm1",
      "X5H4DW0X5ywZm1"],
    some ⟨-18000, -14400, ⟨3, 2, 0, 7200⟩, ⟨11, 1, 0, 7200⟩⟩⟩,
  ⟨"America/Vancouver", -29548, [-28800, -25200],
    [
      "TUFNRi0UUkBsW1UVknMG0VBYHgW1VIOIOG0VJTWyW1VKGGWG0VLLV4W1VM8EeG0VNDTCW1VO0CmG0VP5RKW1",
      "VPuAuG0VQ_j6W1VRm90G0VSthEW1VTgQoG0VUlfMW1VVYOwG0VWddUW1VXQN2G0VYVbcW1VZILAG0VaNZkW1",
      "VbAJIG0VcHrWW1Vd4b4G0Ve9peW1VeyZCG0Vg1nmW1VgqXKG0VhvluW1ViiVSG0Vjnk0W1VkaTaG0Vlh_oW1",
      "VmSRiG0VnZzwW1VoVy6G0VpRy2W1VqNwEG0VrJwAW1VsFuMG0VtBuIW1VuAA8G0Vv3sQW1Vw28GG0Vw-8CW1",
      "Vxw6OG0Vys6KW1Vzo4WG0V-k4SW1V_g2eG0W0c2aW1W1Y0mG0W2U0iW1W3SIYG0W4OIUW1W5KGgG0W6GGcW1",
      "W7CEoG0W88EkW1W94CwG0WA0CsW1WAyB2G0WBuA-W1WCsSqG0WDm96W1WEkQyG0WFgQuW1WGcP4G0WHYP0W1",
      "WIUNCG0WJQN8W1WKMLKG0WLILGW1WMEJSG0WNAJOW1WO8bEG0WP2HWW1WQ0ZMG0WQyZIW1WRuXUG0WSqXQW1",
      "WTmVcG0WUiVYW1WVeTkG0WWTYiW1WXWRsG0WYLWqW1WZQjeG0WaDUyW1WbIhmG0Wc5T4W1WdAfuG0Wd_ksW1",
      "Wf2e0G0Wfti-W1Wgwc8G0Whlh6W1WiqtwG0WjdfEW1Wkis2G0WlVdMW1WmaqAG0WnPv8W1WoSoIG0WpHtGW1",
      "WqKmQG0Wr9rOW1WsCkYG0Wt1pWW1Wu70KG0WuvneW1Wv--SG0WwnlmW1WxsyaG0Wyi1YW1WzkwiG0W-Z_gW1",
      "W_cuqG0X0RzoW1X1XAcG0X2JxwW1X3P8kG0X4Bw2W1X5H6sG0X5yzCW1"],
    some ⟨-28800, -25200, ⟨3, 2, 0, 7200⟩, ⟨11, 1, 0, 7200⟩⟩⟩,
  ⟨"America/Whitehorse", -32412, [-32400, -28800, -25200],
    [
      "TzXegS0UUkCkm1UVkoEW0UWq0om1UXejA00VBYIYm1VIOJGW0VtBtQG2VuAA8G0VunOIG1WJQN8W2WKMLKG1",
      "WLILGW2WMEJSG1WNAJOW2WO8bEG1WP2HWW2WQ0ZMG1WQyZIW2WRuXUG1WSqXQW2WTmVcG1WUiVYW2WVeTkG1",
      "WWTYiW2WXWRsG1WYLWqW2WZQjeG1WaDUyW2WbIhmG1Wc5T4W2WdAfuG1Wd_ksW2Wf2e0G1Wfti-W2Wgwc8G1",
      "Whlh6W2WiqtwG1WjdfEW2Wkis2G1WlVdMW2WmaqAG1WnPv8W2WoSoIG1WpHtGW2WqKmQG1Wr9rOW2WsCkYG1",
      "Wt1pWW2Wu70KG1WuvneW2Wv--SG1WwnlmW2WxsyaG1Wyi1YW2WzkwiG1W-Z_gW2W_cuqG1X0RzoW2X1XAcG1",
      "X2JxwW2X3P8kG1X4Bw2W2X5H6sG1X5yzCW2X7BOeG1X7qxKW2X93MmG1X9ivSW2XAxKuG1XBdBEW2XCrcgG1",
      "XDV9MW2XEjaoG1XFN7UW2XGbYwG1XHF5cW2XITX2G1XJ73kW2XKLVAG1XK_1sW2XMDTIG1XMvJeW2XO7l4G1",
      "XOnHmW2XP_jCG1XQfFuW2XRthKG1XSXE0W2XTlfSG1XUPC8W2"],
    none⟩,
  ⟨"America/Winnipeg", -23316, [-21600, -18000],
    [
      "TavB2K0UR0VlW1URmxfG0UUkA601UVklbm0V2e3k01V3JuJm0VBYFw01VIOGdm0VJY6W01VKKs3m0VLLTK01",
      "VM8Ctm0VNDRS01VO0A_m0VP5Pa01VPu97m0VR00S01VRo5pm0VStfU01VTgP1m0VUldc01VVYN9m0VWdbk01",
      "VXQLHm0VYVZs01VZIJPm0VaNX-01VbAHXm0VcHpm01Vd4ZJm0Ve9nu01VeyXRm0Vg1m001VgqVZm0Vhvk801",
      "ViriJm0VjniG01VkaRpm0VpRwI01VqCMBm0Vv3qg01Vw27O00Vw-6S01Vxw5W00Vys4a01Vzo3e00V-k2i01",
      "V_g1m00W0c0q01W1X_u00W2T-y01W3SHg00W4OGk01W5KFo00W6GEs01W7CDw00W88C-01W94C200WA0B601",
      "WAyAA00WBu9E01WCsRy00WDm7M01WEkQ400WFgP801WGcOC00WHYNG01WIUMK00WJQLO01WKMKS00WLIJW01",
      "WMEIa00WNAHe01WO8aM00WP2Fm01WQ0YU00WQyXY01WRuWc00WSqVg01WTmUk00WUiTo01WVeSs00WWTWy01",
      "WXWQ-00WYLV401WZQim00WaDTC01WbIgu00Wc5RK01WdAf000Wd_j601Wf2d800WfthE01WgwbG00WhlfM01",
      "Wiqt200WjddU01WkirA00WlVbc01WmapI00WnPtO01WoSnQ00WpHrW01WqKlY00Wr9pe01WsCjg00Wt1nm01",
      "Wu6_S00Wuvlu01Wv-za00Wwnk001Wxsxi00Wyh_o01Wzkvq00W-Zzw01W_cty00X0Ry201X1X9k00X2JwA01",
      "X3P7s00X4BuI01X5H55m0X5yxS01"],
    some ⟨-21600, -18000, ⟨3, 2, 0, 7200⟩, ⟨11, 1, 0, 7200⟩⟩⟩,
  ⟨"America/Yakutat", 52865, [-33535, -32400, -28800],
    [
      "S_mltH0TzXpU_1VBYIYm2VIOJGW1V-k5Km2V_g3WW1W0c3Sm2W1Y1eW1W2U1am2W3SJQW1W4OJMm2W5KHYW1",
      "W6GHUm2W7CFgW1W7ZL6m2W94DoW1W9hSqm2WAyBwW1WBuBsm2WCsTiW1WDm9-m2WEkRqW1WFgRmm2WGcPyW1",
      "WHYPum2WIUO4W1WJQO0m2WKMMCW1WLIM8m2WMEKKW1WNAKGm2WO8c6W1WP2IOm2WQ0aEW1WQyaAm2WRuYMW1",
      "WSqYIm2WTmWUW1WUiWQm2WVeUcW1WWTZam2WXWSkW1WYLXim2WZQkWW1WaDVqm2WbIieW1Wc5Tym2WdAgmW1",
      "Wd_lkm2Wf2euW1Wftjsm2Wgwd0W1Whlh-m2WiquoW1Wjdg6m2WkiswW1WlVeEm2Wmar2W1WnPw0m2WoSpAW1",
      "WpHu8m2WqKnIW1Wr9sGm2WsClQW1Wt1qOm2Wu71CW1WuvoWm2Wv-_KW1Wwnmem2WxszSW1Wyi2Qm2WzkxaW1",
      "W-a0Ym2W_cviW1X0R-gm2X1XBUW1X2Jyom2X3P9cW1X4Bwwm2X5H7kW1X5y-4m2"],
    some ⟨-32400, -28800, ⟨3, 2, 0, 7200⟩, ⟨11, 1, 0, 7200⟩⟩⟩]

end Timetable.Zone
